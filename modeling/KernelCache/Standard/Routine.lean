import KernelCache.C.Source
import KernelCache.Standard.Declaration
import KernelCache.Standard.Thread
import KernelCache.Standard.Plus.Failure

/-
**Functions of the library that are written in C.**

`Routine.sources` are small sources, each with the symbols that it defines. A program takes the ones
that it needs.
-/

namespace KernelCache.Standard.Routine

/-- Functions on texts. -/
def texts : List Source :=
  [(["strcmp"], "int strcmp(const char*a,const char*b)<%while(*a&&*a==*b)a++,b++;
      return *(unsigned char*)a-*(unsigned char*)b;%>"),
    (["strcoll"], "int strcoll(const char*a,const char*b)<%return strcmp(a,b);%>"),
    (["strncmp"], "int strncmp(const char*a,const char*b,unsigned long n)<%
      while(n&&*a&&*a==*b)a++,b++,n--;
      return n?*(unsigned char*)a-*(unsigned char*)b:0;%>"),
    (["strcpy"], "char*strcpy(char*t,const char*s)<%char*r=t;while((*t++=*s++));return r;%>"),
    (["stpcpy"], "char*stpcpy(char*t,const char*s)<%while((*t=*s++))t++;return t;%>"),
    (["strncpy"], "char*strncpy(char*t,const char*s,unsigned long n)<%char*r=t;
      while(n&&*s)*t++=*s++,n--;while(n)*t++=0,n--;return r;%>"),
    (["strcat"], "char*strcat(char*t,const char*s)<%char*r=t;while(*t)t++;while((*t++=*s++));
      return r;%>"),
    (["strncat"], "char*strncat(char*t,const char*s,unsigned long n)<%char*r=t;while(*t)t++;
      while(n&&*s)*t++=*s++,n--;*t=0;return r;%>"),
    (["strchr", "index"], "char*strchr(const char*s,int c)<%for(;;s++)<%
      if(*s==(char)c)return(char*)s;if(!*s)return 0;%>%>
      char*index(const char*s,int c)<%return strchr(s,c);%>"),
    (["strchrnul"], "char*strchrnul(const char*s,int c)<%while(*s&&*s!=(char)c)s++;
      return(char*)s;%>"),
    (["strrchr", "rindex"], "char*strrchr(const char*s,int c)<%char*r=0;for(;;s++)<%
      if(*s==(char)c)r=(char*)s;if(!*s)return r;%>%>
      char*rindex(const char*s,int c)<%return strrchr(s,c);%>"),
    (["strstr"], "char*strstr(const char*s,const char*p)<%unsigned long n=strlen(p);
      for(;;s++)<%if(!strncmp(s,p,n))return(char*)s;if(!*s)return 0;%>%>"),
    (["strpbrk"], "char*strpbrk(const char*s,const char*p)<%s+=strcspn(s,p);
      return*s?(char*)s:0;%>"),
    (["strspn"], "unsigned long strspn(const char*s,const char*p)<%unsigned long n=0;
      while(s[n]&&strchr(p,s[n]))n++;return n;%>"),
    (["strcspn"], "unsigned long strcspn(const char*s,const char*p)<%unsigned long n=0;
      while(s[n]&&!strchr(p,s[n]))n++;return n;%>"),
    (["strdup"], "char*strdup(const char*s)<%unsigned long n=strlen(s)+1;char*r=malloc(n);
      return r?memcpy(r,s,n):0;%>"),
    (["strndup"], "char*strndup(const char*s,unsigned long m)<%unsigned long n=strnlen(s,m);
      char*r=malloc(n+1);if(r)<%memcpy(r,s,n);r[n]=0;%>return r;%>"),
    (["strnlen"], "unsigned long strnlen(const char*s,unsigned long m)<%unsigned long n=0;
      while(n<m&&s[n])n++;return n;%>"),
    (["strtok", "strtok_r", "__strtok_r"], "
      char*strtok_r(char*s,const char*d,char**p)<%char*e;if(!s)s=*p;s+=strspn(s,d);
      if(!*s)<%*p=s;return 0;%>e=s+strcspn(s,d);if(*e)*e++=0;*p=e;return s;%>
      char*__strtok_r(char*s,const char*d,char**p)<%return strtok_r(s,d,p);%>
      static char*rest;char*strtok(char*s,const char*d)<%return strtok_r(s,d,&rest);%>"),
    (["strsep"], "char*strsep(char**p,const char*d)<%char*s=*p,*e;if(!s)return 0;
      e=s+strcspn(s,d);if(*e)*e++=0;else e=0;*p=e;return s;%>"),
    (["strcasecmp"], "int strcasecmp(const char*a,const char*b)<%
      while(*a&&tolower(*a)==tolower(*b))a++,b++;return tolower(*a)-tolower(*b);%>"),
    (["strncasecmp"], "int strncasecmp(const char*a,const char*b,unsigned long n)<%
      while(n&&*a&&tolower(*a)==tolower(*b))a++,b++,n--;return n?tolower(*a)-tolower(*b):0;%>"),
    (["strxfrm"], "unsigned long strxfrm(char*t,const char*s,unsigned long n)<%
      unsigned long l=strlen(s);if(n)<%strncpy(t,s,n);if(l>=n)t[n-1]=0;%>return l;%>"),
    (["memchr"], "void*memchr(const void*p,int c,unsigned long n)<%const unsigned char*s=p;
      for(;n;n--,s++)if(*s==(unsigned char)c)return(void*)s;return 0;%>"),
    (["memrchr"], "void*memrchr(const void*p,int c,unsigned long n)<%const unsigned char*s=p;
      while(n--)if(s[n]==(unsigned char)c)return(void*)(s+n);return 0;%>"),
    (["rawmemchr"], "void*rawmemchr(const void*p,int c)<%const unsigned char*s=p;
      while(*s!=(unsigned char)c)s++;return(void*)s;%>"),
    (["mempcpy"], "void*mempcpy(void*t,const void*s,unsigned long n)<%
      return(char*)memcpy(t,s,n)+n;%>"),
    (["memccpy"], "void*memccpy(void*t,const void*s,int c,unsigned long n)<%char*a=t;
      const char*b=s;while(n--)if((*a++=*b++)==(char)c)return a;return 0;%>"),
    (["memmem"], "void*memmem(const void*p,unsigned long n,const void*q,unsigned long m)<%
      const char*s=p;if(!m)return(void*)p;for(;n>=m;n--,s++)if(!memcmp(s,q,m))return(void*)s;
      return 0;%>"),
    (["bzero"], "void bzero(void*p,unsigned long n)<%memset(p,0,n);%>"),
    (["bcopy"], "void bcopy(const void*s,void*t,unsigned long n)<%memmove(t,s,n);%>"),
    (["bcmp"], "int bcmp(const void*a,const void*b,unsigned long n)<%return memcmp(a,b,n);%>"),
    (["strerror"], "char*strerror(int e)<%static char b[32];static const char*t[]=<%\"Success\",
      \"Operation not permitted\",\"No such file or directory\",\"No such process\",
      \"Interrupted system call\",\"Input/output error\",\"No such device or address\",
      \"Argument list too long\",\"Exec format error\",\"Bad file descriptor\",\"No child processes\",
      \"Resource temporarily unavailable\",\"Cannot allocate memory\",\"Permission denied\",
      \"Bad address\",\"Block device required\",\"Device or resource busy\",\"File exists\",
      \"Invalid cross-device link\",\"No such device\",\"Not a directory\",\"Is a directory\",
      \"Invalid argument\",\"Too many open files in system\",\"Too many open files\",
      \"Inappropriate ioctl for device\",\"Text file busy\",\"File too large\",
      \"No space left on device\",\"Illegal seek\",\"Read-only file system\",\"Too many links\",
      \"Broken pipe\",\"Numerical argument out of domain\",\"Numerical result out of range\"%>;
      if(e>=0&&e<35)return(char*)t[e];sprintf(b,\"Unknown error %d\",e);return b;%>")]

/-- Functions on characters. -/
def characters : List Source :=
  [(["isupper"], "int isupper(int c)<%return c>='A'&&c<='Z'?256:0;%>"),
    (["islower"], "int islower(int c)<%return c>='a'&&c<='z'?512:0;%>"),
    (["isalpha"], "int isalpha(int c)<%return(c|32)>='a'&&(c|32)<='z'?1024:0;%>"),
    (["isdigit"], "int isdigit(int c)<%return c>='0'&&c<='9'?2048:0;%>"),
    (["isxdigit"], "int isxdigit(int c)<%
      return(c>='0'&&c<='9')||((c|32)>='a'&&(c|32)<='f')?4096:0;%>"),
    (["isspace"], "int isspace(int c)<%return c==32||(c>=9&&c<=13)?8192:0;%>"),
    (["isprint"], "int isprint(int c)<%return c>=32&&c<127?16384:0;%>"),
    (["isgraph"], "int isgraph(int c)<%return c>32&&c<127?32768:0;%>"),
    (["isblank"], "int isblank(int c)<%return c==32||c==9;%>"),
    (["iscntrl"], "int iscntrl(int c)<%return(c>=0&&c<32)||c==127?2:0;%>"),
    (["isalnum"], "int isalnum(int c)<%return isalpha(c)||isdigit(c)?8:0;%>"),
    (["ispunct"], "int ispunct(int c)<%return c>32&&c<127&&!isalnum(c)?4:0;%>"),
    (["isascii"], "int isascii(int c)<%return c>=0&&c<128;%>"),
    (["toascii"], "int toascii(int c)<%return c&127;%>"),
    (["toupper"], "int toupper(int c)<%return c>='a'&&c<='z'?c-32:c;%>"),
    (["tolower"], "int tolower(int c)<%return c>='A'&&c<='Z'?c+32:c;%>")]

/-- Functions on numbers, arrays and the run. -/
def general : List Source :=
  [(["abs"], "int abs(int x)<%return x<0?-x:x;%>"),
    (["labs"], "long labs(long x)<%return x<0?-x:x;%>"),
    (["llabs"], "long long llabs(long long x)<%return x<0?-x:x;%>"),
    (["imaxabs"], "long imaxabs(long x)<%return x<0?-x:x;%>"),
    (["div"], "typedef struct<%int quot,rem;%>t;t div(int a,int b)<%t r=<%a/b,a%b%>;return r;%>"),
    (["ldiv", "lldiv", "imaxdiv"], "typedef struct<%long quot,rem;%>t;
      t ldiv(long a,long b)<%t r=<%a/b,a%b%>;return r;%>
      t lldiv(long a,long b)<%return ldiv(a,b);%>t imaxdiv(long a,long b)<%return ldiv(a,b);%>"),
    (["ffs", "ffsl", "ffsll"], "int ffs(int x)<%return __builtin_ffs(x);%>
      int ffsl(long x)<%return __builtin_ffsl(x);%>
      int ffsll(long long x)<%return __builtin_ffsll(x);%>"),
    (["atoi"], "long strtol(const char*,char**,int);int atoi(const char*s)<%
      return strtol(s,0,10);%>"),
    (["atol", "atoll"], "long strtol(const char*,char**,int);long atol(const char*s)<%
      return strtol(s,0,10);%>long atoll(const char*s)<%return strtol(s,0,10);%>"),
    (["atof"], "double strtod(const char*,char**);double atof(const char*s)<%
      return strtod(s,0);%>"),
    (["strtod", "strtof", "strtold"], "double __read_real(const char*,char**);
      double strtod(const char*s,char**e)<%return __read_real(s,e);%>
      float strtof(const char*s,char**e)<%return __read_real(s,e);%>
      long double strtold(const char*s,char**e)<%return __read_real(s,e);%>"),
    (["strtol", "strtoll", "strtoul", "strtoull", "strtoimax", "strtoumax"],
      "int*__errno_location(void);
      static int d(int c)<%return c>='0'&&c<='9'?c-'0':c>='a'&&c<='z'?c-'a'+10:c>='A'&&c<='Z'?
        c-'A'+10:99;%>
      static unsigned long r(const char*s,char**e,int b,int*g,int*o)<%unsigned long v=0;
      const char*p=s,*q;while(*p==32||(*p>=9&&*p<=13))p++;*g=0;*o=0;
      if(*p=='-')*g=1,p++;else if(*p=='+')p++;
      if((b==0||b==16)&&*p=='0'&&(p[1]|32)=='x'&&d(p[2])<16)p+=2,b=16;
      else if(b==0)b=*p=='0'?8:10;
      for(q=p;d(*p)<b;p++)<%unsigned long w;if(__builtin_mul_overflow(v,(unsigned long)b,&w)||
        __builtin_add_overflow(w,(unsigned long)d(*p),&w))*o=1;v=w;%>
      if(e)*e=(char*)(p==q?s:p);return v;%>
      long strtol(const char*s,char**e,int b)<%int g,o;unsigned long v=r(s,e,b,&g,&o);
      if(o||(g?v>1ul<<63:v>>63))<%*__errno_location()=34;
        return g?-9223372036854775807l-1:9223372036854775807l;%>return g?-v:v;%>
      unsigned long strtoul(const char*s,char**e,int b)<%int g,o;unsigned long v=r(s,e,b,&g,&o);
      if(o)<%*__errno_location()=34;return-1ul;%>return g?-v:v;%>
      long strtoll(const char*s,char**e,int b)<%return strtol(s,e,b);%>
      long strtoimax(const char*s,char**e,int b)<%return strtol(s,e,b);%>
      unsigned long strtoull(const char*s,char**e,int b)<%return strtoul(s,e,b);%>
      unsigned long strtoumax(const char*s,char**e,int b)<%return strtoul(s,e,b);%>"),
    (["qsort", "qsort_r"], "typedef int(*f)(const void*,const void*,void*);
      static void s(char*b,unsigned long n,unsigned long z,f c,void*x,char*t)<%
      unsigned long m=n/2,k=n-m;char*p=b,*q=b+m*z,*r=t;if(n<2)return;
      s(p,m,z,c,x,t);s(q,k,z,c,x,t);
      while(m&&k)if(c(p,q,x)<=0)memcpy(r,p,z),p+=z,r+=z,m--;else memcpy(r,q,z),q+=z,r+=z,k--;
      memcpy(r,p,m*z);memcpy(b,t,(n-k)*z);%>
      void qsort_r(void*b,unsigned long n,unsigned long z,f c,void*x)<%char*t=malloc(n*z);
      s(b,n,z,c,x,t);free(t);%>
      void qsort(void*b,unsigned long n,unsigned long z,int(*c)(const void*,const void*))<%
      qsort_r(b,n,z,(f)c,0);%>"),
    (["bsearch"], "void*bsearch(const void*k,const void*b,unsigned long n,unsigned long z,
      int(*c)(const void*,const void*))<%unsigned long l=0,u=n,i;while(l<u)<%i=(l+u)/2;
      const char*p=(const char*)b+i*z;int r=c(k,p);if(r<0)u=i;else if(r>0)l=i+1;
      else return(void*)p;%>return 0;%>"),
    (["rand", "srand", "random", "srandom"], "static int s[31],f,b,y;
      int rand(void);void srand(unsigned v)<%int i;long h,l;int w;if(!v)v=1;s[0]=w=v;
      for(i=1;i<31;i++)<%h=w/127773;l=w%127773;w=16807*l-2836*h;if(w<0)w+=2147483647;s[i]=w;%>
      f=3;b=0;y=1;for(i=0;i<310;i++)rand();%>
      int rand(void)<%unsigned v;if(!y)srand(1);s[f]=v=(unsigned)s[f]+(unsigned)s[b];
      if(++f==31)f=0;if(++b==31)b=0;return v>>1;%>
      long random(void)<%return rand();%>void srandom(unsigned v)<%srand(v);%>"),
    (["rand_r"], "int rand_r(unsigned*p)<%unsigned n=*p;int r;n=n*1103515245+12345;
      r=(unsigned)(n/65536)%2048;n=n*1103515245+12345;r<<=10;r^=(unsigned)(n/65536)%1024;
      n=n*1103515245+12345;r<<=10;r^=(unsigned)(n/65536)%1024;*p=n;return r;%>"),
    (["posix_memalign"], "void*aligned_alloc(unsigned long,unsigned long);
      int posix_memalign(void**p,unsigned long a,unsigned long n)<%*p=aligned_alloc(a,n);
      return*p?0:12;%>"),
    (["getenv", "secure_getenv", "setenv", "unsetenv", "putenv", "clearenv"], "typedef struct n<%
      struct n*next;char*name,*value;%>N;static N p=<%0,\"PATH\",\"/usr/local/bin:/usr/bin:/bin\"%>;
      static N*all=&p;char*getenv(const char*n)<%N*e=all;while(e)<%
      if(!strcmp(e->name,n))return e->value;e=e->next;%>return 0;%>
      char*secure_getenv(const char*n)<%return getenv(n);%>
      int unsetenv(const char*n)<%N**e=&all;while(*e)<%if(!strcmp((*e)->name,n))*e=(*e)->next;
      else e=&(*e)->next;%>return 0;%>
      int setenv(const char*n,const char*v,int w)<%N*e;if(getenv(n))<%if(!w)return 0;unsetenv(n);%>
      e=malloc(sizeof*e);e->next=all;e->name=strdup(n);e->value=strdup(v);all=e;return 0;%>
      int putenv(char*s)<%char*c=strchr(s,'='),*n;if(!c)return unsetenv(s);n=strndup(s,c-s);
      return setenv(n,c+1,1);%>int clearenv(void)<%all=0;return 0;%>"),
    (["__errno_location"], "static _Thread_local int e;int*__errno_location(void)<%return&e;%>"),
    (["__assert_fail"], "int dprintf(int,const char*,...);
      void __assert_fail(const char*e,const char*f,unsigned l,const char*n)<%
      dprintf(2,\"%s:%u: %s: Assertion `%s' failed.\\n\",f,l,n,e);abort();%>"),
    (["sysconf"], "long sysconf(int n)<%return n==30?4096:n==84||n==83?1:-1;%>"),
    (["setlocale"], "char*setlocale(int c,const char*n)<%return n&&*n&&strcmp(n,\"C\")&&
      strcmp(n,\"POSIX\")?0:\"C\";%>"),
    (["swab"], "void swab(const void*s,void*t,long n)<%const char*a=s;char*b=t;char c;
      for(;n>1;n-=2,a+=2,b+=2)c=*a,*b=a[1],b[1]=c;%>"),
    (["nextafter"], "double nextafter(double x,double y)<%union<%double d;long i;%>u=<%x%>;
      if(x!=x||y!=y)return x+y;if(x==y)return y;
      if(x==0)<%u.i=y<0?-9223372036854775807l:1;return u.d;%>
      if((x<y)==(x>0))u.i++;else u.i--;return u.d;%>"),
    (["tgamma", "lgamma"], "double sqrt(double),pow(double,double),exp(double),log(double),
      sin(double),floor(double),fabs(double);
      static double g(double x)<%static const double c[]=<%0.99999999999980993,676.5203681218851,
      -1259.1392167224028,771.32342877765313,-176.61502916214059,12.507343278686905,
      -0.13857109526572012,9.9843695780195716e-6,1.5056327351493116e-7%>;double a=c[0],t;int i;
      x-=1;for(i=1;i<9;i++)a+=c[i]/(x+i);t=x+7.5;
      return 2.5066282746310002*pow(t,x+0.5)*exp(-t)*a;%>
      double tgamma(double x)<%if(x==floor(x)&&x>0&&x<171)<%double r=1;while(x>2)r*=--x;return r;%>
      return x<0.5?3.14159265358979323846/(sin(3.14159265358979323846*x)*g(1-x)):g(x);%>
      double lgamma(double x)<%return log(fabs(tgamma(x)));%>")]

/-- Output and input by streams. -/
def streams : List Source :=
  let front := "typedef struct<%int d,e,u;%>F;extern F*stdin,*stdout,*stderr;
    typedef __builtin_va_list V;long write(int,const void*,unsigned long);
    int getchar(void),__next_octet(void);"
  [(["stdin", "stdout", "stderr"], "typedef struct<%int d,e,u;%>F;
      static F i=<%0,0,-1%>,o=<%257,0,-1%>,r=<%2,0,-1%>;F*stdin=&i,*stdout=&o,*stderr=&r;"),
    (["puts"], "long write(int,const void*,unsigned long);int puts(const char*s)<%
      write(257,s,strlen(s));write(257,\"\\n\",1);return strlen(s)+1;%>"),
    (["putchar", "putchar_unlocked"], "long write(int,const void*,unsigned long);
      int putchar(int c)<%char b=c;write(257,&b,1);return c&255;%>
      int putchar_unlocked(int c)<%return putchar(c);%>"),
    (["fputs", "fputs_unlocked"], front ++ "int fputs(const char*s,F*f)<%
      write(f->d,s,strlen(s));return 1;%>
      int fputs_unlocked(const char*s,F*f)<%return fputs(s,f);%>"),
    (["fputc", "putc", "_IO_putc"], front ++ "int fputc(int c,F*f)<%char b=c;write(f->d,&b,1);
      return c&255;%>int putc(int c,F*f)<%return fputc(c,f);%>
      int _IO_putc(int c,F*f)<%return fputc(c,f);%>"),
    (["fwrite", "fwrite_unlocked"], front ++
      "unsigned long fwrite(const void*p,unsigned long z,unsigned long n,F*f)<%
      write(f->d,p,z*n);return z?n:0;%>
      unsigned long fwrite_unlocked(const void*p,unsigned long z,unsigned long n,F*f)<%
      return fwrite(p,z,n,f);%>"),
    (["fprintf", "vfprintf"], front ++ "int vdprintf(int,const char*,V);
      int vfprintf(F*f,const char*t,V a)<%return vdprintf(f->d,t,a);%>
      int fprintf(F*f,const char*t,...)<%V a;int r;__builtin_va_start(a,t);
      r=vfprintf(f,t,a);return r;%>"),
    (["asprintf", "vasprintf"], front ++ "int vsnprintf(char*,unsigned long,const char*,V);
      int vasprintf(char**p,const char*t,V a)<%int n=vsnprintf(0,0,t,a);*p=malloc(n+1);
      return vsnprintf(*p,n+1,t,a);%>
      int asprintf(char**p,const char*t,...)<%V a;__builtin_va_start(a,t);
      return vasprintf(p,t,a);%>"),
    (["fscanf"], front ++ "int vscanf(const char*,V);
      int fscanf(F*f,const char*t,...)<%V a;__builtin_va_start(a,t);return vscanf(t,a);%>"),
    (["fgetc", "getc", "_IO_getc", "ungetc", "fgets", "feof", "ferror", "clearerr", "fread",
        "getline"], front ++ "int fgetc(F*f)<%int c=f->u;if(c>=0)<%f->u=-1;return c;%>
      c=f->d?-1:getchar();if(c<0)f->e=1;return c;%>
      int getc(F*f)<%return fgetc(f);%>int _IO_getc(F*f)<%return fgetc(f);%>
      int ungetc(int c,F*f)<%f->e=0;return f->u=c;%>int feof(F*f)<%return f->e;%>
      int ferror(F*f)<%return 0;%>void clearerr(F*f)<%f->e=0;%>
      char*fgets(char*s,int n,F*f)<%int i=0,c=0;while(i<n-1&&c!='\\n'&&(c=fgetc(f))>=0)s[i++]=c;
      if(!i)return 0;s[i]=0;return s;%>
      unsigned long fread(void*p,unsigned long z,unsigned long n,F*f)<%unsigned long i;int c;
      for(i=0;i<z*n&&(c=fgetc(f))>=0;i++)((char*)p)[i]=c;return z?i/z:0;%>
      long getline(char**p,unsigned long*n,F*f)<%long i=0;int c=0;
      while(c!='\\n'&&(c=fgetc(f))>=0)<%if(i+2>(long)*n||!*p)<%*n=*p?*n*2:120;*p=realloc(*p,*n);%>
      (*p)[i++]=c;%>if(!i)return-1;(*p)[i]=0;return i;%>"),
    (["fflush", "setvbuf", "setbuf", "fileno", "fclose", "fopen", "remove", "rename"], front ++
      "int fflush(F*f)<%if(!f||f->d==257)write(258,\"\",1);return 0;%>int setvbuf(F*f,char*b,int m,unsigned long n)<%return 0;%>
      void setbuf(F*f,char*b)<%%>int fileno(F*f)<%return f->d&255;%>int fclose(F*f)<%return 0;%>
      int*__errno_location(void);
      F*fopen(const char*n,const char*m)<%*__errno_location()=2;return 0;%>
      int remove(const char*n)<%*__errno_location()=2;return-1;%>
      int rename(const char*a,const char*b)<%*__errno_location()=2;return-1;%>"),
    (["perror"], front ++ "int*__errno_location(void);char*strerror(int);
      int dprintf(int,const char*,...);void perror(const char*s)<%
      if(s&&*s)dprintf(2,\"%s: \",s);dprintf(2,\"%s\\n\",strerror(*__errno_location()));%>")]

/-- Functions that programs in C++ need when they run. -/
def plus : List Source :=
  let front := "typedef struct t<%long a;const char*name;long count;
    struct<%struct t*type;long offset;%>bases<::>;%>T;long __way_to_type(T*,T*);"
  [(["__way_to_type"], front ++ "long __way_to_type(T*t,T*w)<%long i,r;
      if(t==w||!strcmp(t->name,w->name))return 1;
      for(i=0;i<t->count;i++)<%r=__way_to_type(t->bases[i].type,w);
      if(r)return r+t->bases[i].offset;%>return 0;%>"),
    (["__begin_catch", "__end_catch", "__leave_catch"], "void __begin_catch(char*o)<%++((long*)o)[-1];%>
      void __end_catch(char*o)<%void(*d)(void*)=*(void(**)(void*))(o-16);
      if(--((long*)o)[-1])return;if(d)d(o);free(o-16);%>
      void __leave_catch(char*o,char*n)<%if(o==n)--((long*)o)[-1];else __end_catch(o);%>"),
    (["__object_of_type"], front ++ "void*__object_of_type(char*o,T*w)<%
      if(!o)return 0;long*v=*(long**)o;char*p=o+v[-2];long r=__way_to_type((T*)v[-1],w);
      return r?p+r-1:0;%>")]

/-- All sources. -/
def sources : List Source :=
  texts ++ characters ++ general ++ streams ++ plus ++ Calendar.part.sources ++ Thread.part.sources
    ++ Wide.part.sources ++ Complex.part.sources

/-- Sources in C++. -/
def sourcesInPlus : List Source := [Plus.Failure.library]

/-- The symbols that sources define. -/
def symbols : List String := (sources ++ sourcesInPlus).flatMap (·.1)

/-- The pieces of the sources by their symbols. -/
def piece? (symbol : String) : Option Code.Piece := do
  let has (source : Source) : Bool := source.1.contains symbol
  let (text, dialect) ← ((sources.find? has).map fun source => (source.2, C.Dialect.c)).or
    ((sourcesInPlus.find? has).map fun source => (source.2, C.Dialect.cpp))
  let tokens ← C.Token.list? (dialect == .cpp) text.toList
  let lone : Code.Library := { service? := fun _ => none, piece? := fun _ => none }
  let source ← C.Source.read? { optimized := true, dialect } lone tokens
  return source.piece

end KernelCache.Standard.Routine
