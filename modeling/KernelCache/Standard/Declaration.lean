import KernelCache.C.Token

/-
**Declarations that several headers share.**

A part of the library is a list of headers with their texts, and a list of sources with the symbols
that they define.
-/

namespace KernelCache.Standard

/-- A source of the library: the symbols that it defines, and its text. -/
abbrev Source := List String × String

/-- A part of the library: its headers by their names, and its sources. -/
structure Part where
  headers : List (String × String)
  sources : List Source

namespace Header

/-- Types that several headers declare: the name, and the declaration. -/
def commonTypes : List (String × String) :=
  [("size_t", "typedef unsigned long size_t;"),
    ("ssize_t", "typedef long ssize_t;"),
    ("wchar_t", "\n#ifndef __cplusplus\ntypedef int wchar_t;\n#endif\n"),
    ("wint_t", "typedef unsigned wint_t;"),
    ("va_list", "typedef __builtin_va_list va_list;"),
    ("FILE", "typedef struct _IO_FILE FILE;"),
    ("time_t", "typedef long time_t;"),
    ("clock_t", "typedef long clock_t;"),
    ("off_t", "typedef long off_t;"),
    ("pid_t", "typedef int pid_t;"),
    ("ptrdiff_t", "typedef long ptrdiff_t;"),
    ("intptr_t", "typedef long intptr_t;"),
    ("uintptr_t", "typedef unsigned long uintptr_t;"),
    ("timespec", "struct timespec<%time_t tv_sec;long tv_nsec;%>;"),
    ("NULL", "\n#undef NULL\n#ifdef __cplusplus\n#define NULL 0L\n#else\n#define NULL ((void*)0)\n#endif\n"),
    ("bits_int", "typedef signed char int8_t;typedef short int16_t;typedef int int32_t;
      typedef long int64_t;")]

/-- The declarations of common types, each only once. -/
def need (names : List String) : String :=
  "\n".intercalate (names.map fun name =>
    "#ifndef __declared_" ++ name ++ "\n#define __declared_" ++ name ++ "\n"
      ++ (commonTypes.lookup name).getD "" ++ "\n#endif\n")

end Header

end KernelCache.Standard

/-! ## Wide characters

Texts of wide characters stand for texts of one octet each: only characters of seven bits have a narrow
form.
-/

namespace KernelCache.Standard.Wide

open Header (need)

/-- Functions on wide texts. -/
def header : String := need ["size_t", "wchar_t", "wint_t", "NULL", "va_list"] ++
  "#define WEOF (0xffffffffu)
  #ifndef WCHAR_MAX
  #define WCHAR_MIN (-2147483647-1)
  #define WCHAR_MAX 2147483647
  #endif
  typedef struct<%int __v[2];%>mbstate_t;
  size_t wcslen(const wchar_t*);size_t wcsnlen(const wchar_t*,size_t);
  wchar_t*wcscpy(wchar_t*,const wchar_t*);wchar_t*wcsncpy(wchar_t*,const wchar_t*,size_t);
  wchar_t*wcscat(wchar_t*,const wchar_t*);wchar_t*wcsncat(wchar_t*,const wchar_t*,size_t);
  int wcscmp(const wchar_t*,const wchar_t*);int wcsncmp(const wchar_t*,const wchar_t*,size_t);
  wchar_t*wcschr(const wchar_t*,wchar_t);wchar_t*wcsrchr(const wchar_t*,wchar_t);
  wchar_t*wcsstr(const wchar_t*,const wchar_t*);wchar_t*wcsdup(const wchar_t*);
  wchar_t*wmemcpy(wchar_t*,const wchar_t*,size_t);wchar_t*wmemmove(wchar_t*,const wchar_t*,size_t);
  wchar_t*wmemset(wchar_t*,wchar_t,size_t);int wmemcmp(const wchar_t*,const wchar_t*,size_t);
  wchar_t*wmemchr(const wchar_t*,wchar_t,size_t);wint_t btowc(int);int wctob(wint_t);
  long wcstol(const wchar_t*,wchar_t**,int);unsigned long wcstoul(const wchar_t*,wchar_t**,int);
  double wcstod(const wchar_t*,wchar_t**);
  int swprintf(wchar_t*,size_t,const wchar_t*,...);int vswprintf(wchar_t*,size_t,const wchar_t*,va_list);"

/-- Functions on wide characters. -/
def kinds : String := need ["wint_t"] ++
  String.join (["alnum", "alpha", "cntrl", "digit", "graph", "lower", "print", "punct", "space",
    "upper", "xdigit", "blank"].map fun name => "int isw" ++ name ++ "(wint_t);")
  ++ "wint_t towupper(wint_t);wint_t towlower(wint_t);"

/-- Functions on wide texts. -/
def texts : List Source :=
  let front := "typedef int W;typedef unsigned long Z;"
  [(["wcslen", "wcsnlen"], front ++ "Z wcslen(const W*s)<%Z n=0;while(s[n])n++;return n;%>
      Z wcsnlen(const W*s,Z m)<%Z n=0;while(n<m&&s[n])n++;return n;%>"),
    (["wcscpy", "wcsncpy", "wcscat", "wcsncat"], front ++
      "W*wcscpy(W*t,const W*s)<%W*r=t;while((*t++=*s++));return r;%>
      W*wcsncpy(W*t,const W*s,Z n)<%W*r=t;while(n&&*s)*t++=*s++,n--;while(n)*t++=0,n--;return r;%>
      W*wcscat(W*t,const W*s)<%W*r=t;while(*t)t++;while((*t++=*s++));return r;%>
      W*wcsncat(W*t,const W*s,Z n)<%W*r=t;while(*t)t++;while(n&&*s)*t++=*s++,n--;*t=0;return r;%>"),
    (["wcscmp", "wcsncmp", "wmemcmp"], front ++
      "int wcscmp(const W*a,const W*b)<%while(*a&&*a==*b)a++,b++;return*a<*b?-1:*a>*b;%>
      int wcsncmp(const W*a,const W*b,Z n)<%while(n&&*a&&*a==*b)a++,b++,n--;
      return!n?0:*a<*b?-1:*a>*b;%>
      int wmemcmp(const W*a,const W*b,Z n)<%while(n&&*a==*b)a++,b++,n--;
      return!n?0:*a<*b?-1:1;%>"),
    (["wcschr", "wcsrchr", "wcsstr", "wmemchr"], front ++
      "Z wcslen(const W*);int wcsncmp(const W*,const W*,Z);
      W*wcschr(const W*s,W c)<%for(;;s++)<%if(*s==c)return(W*)s;if(!*s)return 0;%>%>
      W*wcsrchr(const W*s,W c)<%W*r=0;for(;;s++)<%if(*s==c)r=(W*)s;if(!*s)return r;%>%>
      W*wcsstr(const W*s,const W*p)<%Z n=wcslen(p);for(;;s++)<%if(!wcsncmp(s,p,n))return(W*)s;
      if(!*s)return 0;%>%>
      W*wmemchr(const W*s,W c,Z n)<%for(;n;n--,s++)if(*s==c)return(W*)s;return 0;%>"),
    (["wcsdup"], front ++ "Z wcslen(const W*);W*wcsdup(const W*s)<%Z n=4*(wcslen(s)+1);
      W*r=malloc(n);return r?memcpy(r,s,n):0;%>"),
    (["wmemcpy", "wmemmove", "wmemset"], front ++
      "W*wmemcpy(W*t,const W*s,Z n)<%return memcpy(t,s,4*n);%>
      W*wmemmove(W*t,const W*s,Z n)<%return memmove(t,s,4*n);%>
      W*wmemset(W*t,W c,Z n)<%for(Z i=0;i<n;i++)t[i]=c;return t;%>"),
    (["btowc", "wctob", "mblen", "mbtowc", "wctomb", "mbstowcs", "wcstombs"], front ++
      "unsigned btowc(int c)<%return c>=0&&c<128?c:-1;%>int wctob(unsigned c)<%return c<128?c:-1;%>
      int mbtowc(W*w,const char*s,Z n)<%if(!s)return 0;if(!n||*s<0)return-1;if(w)*w=*s;
      return*s!=0;%>
      int mblen(const char*s,Z n)<%return mbtowc(0,s,n);%>
      int wctomb(char*s,W c)<%if(!s)return 0;if(c<0||c>127)return-1;*s=c;return 1;%>
      Z mbstowcs(W*w,const char*s,Z n)<%Z i=0;for(;!w||i<n;i++)<%if(s[i]<0)return-1;
      if(w)w[i]=s[i];if(!s[i])break;%>return i;%>
      Z wcstombs(char*s,const W*w,Z n)<%Z i=0;for(;!s||i<n;i++)<%if(w[i]<0||w[i]>127)return-1;
      if(s)s[i]=w[i];if(!w[i])break;%>return i;%>"),
    (["wcstol", "wcstoul", "wcstod"], front ++ "long strtol(const char*,char**,int);
      unsigned long strtoul(const char*,char**,int);double strtod(const char*,char**);
      static char*low(const W*s)<%static char b[256];int i=0;
      while(i<255&&s[i]>0&&s[i]<128)b[i]=s[i],i++;b[i]=0;return b;%>
      long wcstol(const W*s,W**e,int b)<%char*p=low(s),*q;long v=strtol(p,&q,b);
      if(e)*e=(W*)s+(q-p);return v;%>
      unsigned long wcstoul(const W*s,W**e,int b)<%char*p=low(s),*q;unsigned long v=strtoul(p,&q,b);
      if(e)*e=(W*)s+(q-p);return v;%>
      double wcstod(const W*s,W**e)<%char*p=low(s),*q;double v=strtod(p,&q);
      if(e)*e=(W*)s+(q-p);return v;%>"),
    (["vswprintf", "swprintf"], front ++ "typedef __builtin_va_list V;
      int vsnprintf(char*,unsigned long,const char*,V);
      int vswprintf(W*t,Z z,const W*f,V a)<%char g[512],*b;int i=0,n;
      while(i<511&&f[i])g[i]=f[i],i++;g[i]=0;b=malloc(z+1);n=vsnprintf(b,z+1,g,a);
      if(n<0||n>=(int)z)<%free(b);return-1;%>for(i=0;i<=n;i++)t[i]=(unsigned char)b[i];free(b);
      return n;%>
      int swprintf(W*t,Z z,const W*f,...)<%V a;__builtin_va_start(a,f);return vswprintf(t,z,f,a);%>")]

/-- Functions on wide characters. -/
def characters : List Source :=
  let ofKind (name : String) : Source :=
    (["isw" ++ name], "int is" ++ name ++ "(int);int isw" ++ name ++ "(unsigned c)<%return c<128&&is"
      ++ name ++ "(c);%>")
  ["alnum", "alpha", "cntrl", "digit", "graph", "lower", "print", "punct", "space", "upper", "xdigit",
    "blank"].map ofKind
  ++ [(["towupper"], "unsigned towupper(unsigned c)<%return c>='a'&&c<='z'?c-32:c;%>"),
    (["towlower"], "unsigned towlower(unsigned c)<%return c>='A'&&c<='Z'?c+32:c;%>")]

/-- Wide characters. -/
def part : Part where
  headers := [("wchar.h", header), ("wctype.h", kinds)]
  sources := texts ++ characters

end KernelCache.Standard.Wide

/-! ## Clocks and dates

Time stands still while a program runs: every clock shows `Calendar.now`. All places are in the zone
of Greenwich.
-/

namespace KernelCache.Standard.Calendar

open Header (need)

/-- The seconds from the start of the year 1970 that clocks show. -/
def now : Nat := 1735689600

/-- What sources need to know about dates. -/
def header : String := need ["size_t", "NULL", "time_t", "clock_t", "timespec"] ++
  "#define CLOCKS_PER_SEC ((clock_t)1000000)
  #define CLOCK_REALTIME 0
  #define CLOCK_MONOTONIC 1
  #define CLOCK_PROCESS_CPUTIME_ID 2
  #define CLOCK_THREAD_CPUTIME_ID 3
  #define TIME_UTC 1
  typedef int clockid_t;
  struct tm<%int tm_sec,tm_min,tm_hour,tm_mday,tm_mon,tm_year,tm_wday,tm_yday,tm_isdst;
  long tm_gmtoff;const char*tm_zone;%>;
  time_t time(time_t*);clock_t clock(void);double difftime(time_t,time_t);time_t mktime(struct tm*);
  time_t timegm(struct tm*);struct tm*gmtime(const time_t*);struct tm*localtime(const time_t*);
  struct tm*gmtime_r(const time_t*,struct tm*);struct tm*localtime_r(const time_t*,struct tm*);
  char*asctime(const struct tm*);char*ctime(const time_t*);char*asctime_r(const struct tm*,char*);
  char*ctime_r(const time_t*,char*);size_t strftime(char*,size_t,const char*,const struct tm*);
  int clock_gettime(clockid_t,struct timespec*);int clock_getres(clockid_t,struct timespec*);
  int nanosleep(const struct timespec*,struct timespec*);int timespec_get(struct timespec*,int);
  void tzset(void);"

/-- Times with millionths of a second. -/
def systemHeader : String := need ["time_t"] ++
  "struct timeval<%time_t tv_sec;long tv_usec;%>;
  struct timezone<%int tz_minuteswest,tz_dsttime;%>;
  int gettimeofday(struct timeval*,void*);"

/-- A broken-down time, as the sources of the library see it. -/
def broken : String :=
  "typedef struct<%int s,m,h,d,o,y,w,q,i;long g;const char*z;%>T;
  int snprintf(char*,unsigned long,const char*,...);T*gmtime_r(const long*,T*);"

/-- Functions on times. -/
def sources : List Source :=
  let clocks := "static long n=" ++ toString now ++ "l;"
  [(["time", "clock", "clock_gettime", "clock_getres", "timespec_get", "gettimeofday"], clocks ++
      "typedef struct<%long s,f;%>S;long time(long*t)<%if(t)*t=n;return n;%>
      long clock(void)<%return 1000;%>
      int clock_gettime(int c,S*s)<%s->s=c?1000:n;s->f=0;return 0;%>
      int clock_getres(int c,S*s)<%if(s)s->s=0,s->f=1;return 0;%>
      int timespec_get(S*s,int b)<%s->s=n;s->f=0;return b;%>
      int gettimeofday(S*s,void*z)<%s->s=n;s->f=0;return 0;%>"),
    (["difftime"], "double difftime(long a,long b)<%return a-b;%>"),
    (["tzset"], "void tzset(void)<%%>"),
    (["gmtime_r", "gmtime", "localtime_r", "localtime"], broken ++
      "static T b;T*gmtime_r(const long*p,T*r)<%long t=*p,d=t/86400,x=t%86400,e,y,a,k;
      if(x<0)x+=86400,d--;r->h=x/3600;r->m=x/60%60;r->s=x%60;r->w=((d+4)%7+7)%7;
      d+=719468;e=(d>=0?d:d-146096)/146097;a=d-e*146097;
      y=(a-a/1460+a/36524-a/146096)/365;a-=365*y+y/4-y/100;k=(5*a+2)/153;
      r->d=a-(153*k+2)/5+1;r->o=k<10?k+2:k-10;y+=e*400+(r->o<2);r->y=y-1900;
      int l=y%4==0&&(y%100||y%400==0);r->q=a>=306?a-306:a+59+l;
      r->i=0;r->g=0;r->z=\"GMT\";return r;%>
      T*gmtime(const long*p)<%return gmtime_r(p,&b);%>
      T*localtime_r(const long*p,T*r)<%gmtime_r(p,r);r->z=\"UTC\";return r;%>
      T*localtime(const long*p)<%return localtime_r(p,&b);%>"),
    (["mktime", "timegm"], broken ++
      "long mktime(T*r)<%long o=r->o,y=r->y+1900l+o/12,e,a,t;o%=12;if(o<0)o+=12,y--;
      if(o<2)y--;e=(y>=0?y:y-399)/400;a=y-e*400;
      t=e*146097+a*365+a/4-a/100+(153*(o>1?o-2:o+10)+2)/5+r->d-1-719468;
      t=t*86400+r->h*3600l+r->m*60l+r->s;gmtime_r(&t,r);r->z=\"UTC\";return t;%>
      long timegm(T*r)<%long t=mktime(r);r->z=\"GMT\";return t;%>"),
    (["asctime", "asctime_r", "ctime", "ctime_r"], broken ++
      "T*localtime(const long*);static char b[64];
      char*asctime_r(const T*t,char*b)<%snprintf(b,64,\"%.3s %.3s%3d %.2d:%.2d:%.2d %d\\n\",
      t->w<0||t->w>6?\"???\":\"SunMonTueWedThuFriSat\"+3*t->w,
      t->o<0||t->o>11?\"???\":\"JanFebMarAprMayJunJulAugSepOctNovDec\"+3*t->o,
      t->d,t->h,t->m,t->s,1900+t->y);return b;%>
      char*asctime(const T*t)<%return asctime_r(t,b);%>
      char*ctime(const long*t)<%return asctime(localtime(t));%>
      char*ctime_r(const long*t,char*b)<%return asctime_r(localtime(t),b);%>"),
    (["strftime"], broken ++ "long mktime(T*);static const char*D[]=<%\"Sunday\",\"Monday\",\"Tuesday\",
      \"Wednesday\",\"Thursday\",\"Friday\",\"Saturday\"%>,*M[]=<%\"January\",\"February\",\"March\",
      \"April\",\"May\",\"June\",\"July\",\"August\",\"September\",\"October\",\"November\",\"December\"%>;
      static int iso(const T*t,int*y)<%int w=(t->w+6)%7,n=(t->q-w+10)/7,Y=t->y+1900,k;*y=Y;
      if(n<1)<%*y=Y-1;k=Y-1;int l=k%4==0&&(k%100||k%400==0);return(t->q+365+l-w+10)/7;%>
      if(n==53)<%int l=Y%4==0&&(Y%100||Y%400==0);if(t->q-w+3>=365+l)<%*y=Y+1;return 1;%>%>
      return n;%>
      unsigned long strftime(char*b,unsigned long z,const char*f,const T*t)<%unsigned long n=0;
      char s[128];int y;for(;*f;f++)<%if(*f!='%')<%s[0]=*f;s[1]=0;%>else<%
      f++;while(*f=='E'||*f=='O'||*f=='-'||*f=='_')f++;switch(*f)<%
      case'a':snprintf(s,128,\"%.3s\",D[t->w]);break;case'A':snprintf(s,128,\"%s\",D[t->w]);break;
      case'b':case'h':snprintf(s,128,\"%.3s\",M[t->o]);break;
      case'B':snprintf(s,128,\"%s\",M[t->o]);break;
      case'c':strftime(s,128,\"%a %b %e %H:%M:%S %Y\",t);break;
      case'C':snprintf(s,128,\"%02d\",(t->y+1900)/100);break;
      case'd':snprintf(s,128,\"%02d\",t->d);break;case'e':snprintf(s,128,\"%2d\",t->d);break;
      case'D':case'x':strftime(s,128,\"%m/%d/%y\",t);break;
      case'F':strftime(s,128,\"%Y-%m-%d\",t);break;
      case'g':iso(t,&y);snprintf(s,128,\"%02d\",y%100);break;
      case'G':iso(t,&y);snprintf(s,128,\"%d\",y);break;
      case'H':snprintf(s,128,\"%02d\",t->h);break;case'k':snprintf(s,128,\"%2d\",t->h);break;
      case'I':snprintf(s,128,\"%02d\",(t->h+11)%12+1);break;
      case'l':snprintf(s,128,\"%2d\",(t->h+11)%12+1);break;
      case'j':snprintf(s,128,\"%03d\",t->q+1);break;case'm':snprintf(s,128,\"%02d\",t->o+1);break;
      case'M':snprintf(s,128,\"%02d\",t->m);break;case'n':strcpy(s,\"\\n\");break;
      case'p':strcpy(s,t->h<12?\"AM\":\"PM\");break;case'P':strcpy(s,t->h<12?\"am\":\"pm\");break;
      case'r':strftime(s,128,\"%I:%M:%S %p\",t);break;case'R':strftime(s,128,\"%H:%M\",t);break;
      case's':<%T c=*t;snprintf(s,128,\"%ld\",mktime(&c));break;%>
      case'S':snprintf(s,128,\"%02d\",t->s);break;case't':strcpy(s,\"\\t\");break;
      case'T':case'X':strftime(s,128,\"%H:%M:%S\",t);break;
      case'u':snprintf(s,128,\"%d\",t->w?t->w:7);break;
      case'U':snprintf(s,128,\"%02d\",(t->q+7-t->w)/7);break;
      case'V':snprintf(s,128,\"%02d\",iso(t,&y));break;
      case'w':snprintf(s,128,\"%d\",t->w);break;
      case'W':snprintf(s,128,\"%02d\",(t->q+7-(t->w+6)%7)/7);break;
      case'y':snprintf(s,128,\"%02d\",(t->y%100+100)%100);break;
      case'Y':snprintf(s,128,\"%d\",t->y+1900);break;
      case'z':snprintf(s,128,\"%+03ld%02ld\",t->g/3600,t->g/60%60);break;
      case'Z':strcpy(s,t->z?t->z:\"\");break;case'%':strcpy(s,\"%\");break;
      default:s[0]='%';s[1]=*f;s[2]=0;if(!*f)f--;%>%>
      if(n+strlen(s)>=z)return 0;strcpy(b+n,s);n+=strlen(s);%>if(z)b[n]=0;return n;%>")]

/-- Clocks and dates. -/
def part : Part := { headers := [("time.h", header), ("sys/time.h", systemHeader)], sources }

end KernelCache.Standard.Calendar

/-! ## Complex numbers

Every function has a form for each width of its numbers. A text stands for all of them: in it `T` is
the type of the parts and `~` the letter at the end of names.
-/

namespace KernelCache.Standard.Complex

/-- The widths of numbers: the letter at the end of names, and the type of the parts. -/
def widths : List (String × String) := [("", "double"), ("f", "float"), ("l", "long double")]

/-- A text with a letter and a type filled in. -/
def filled (letter type text : String) : String :=
  "typedef " ++ type ++ " T;typedef " ++ type ++ " _Complex C;"
    ++ String.join (text.toList.map fun char => if char = '$' then letter else char.toString)

/-- Functions that the compiler knows by itself, with their texts. -/
def known : List (String × String) :=
  [("creal", "T creal$(C z)<%return __real__ z;%>"),
    ("cimag", "T cimag$(C z)<%return __imag__ z;%>"),
    ("conj", "C conj$(C z)<%return ~z;%>")]

/-- Functions on complex numbers, with their texts. -/
def others : List (String × String) :=
  [("cabs", "T hypot$(T,T);T cabs$(C z)<%return hypot$(__real__ z,__imag__ z);%>"),
    ("carg", "T atan2$(T,T);T carg$(C z)<%return atan2$(__imag__ z,__real__ z);%>"),
    ("cproj", "C cproj$(C z)<%T x=__real__ z,y=__imag__ z;
      if(__builtin_isinf(x)||__builtin_isinf(y))return __builtin_complex((T)__builtin_inf(),
      (T)__builtin_copysign(0,y));return z;%>"),
    ("cexp", "T exp$(T),sin$(T),cos$(T);C cexp$(C z)<%T e=exp$(__real__ z),y=__imag__ z;
      return __builtin_complex(e*cos$(y),e*sin$(y));%>"),
    ("clog", "T log$(T),log1p$(T),hypot$(T,T),atan2$(T,T),fabs$(T);C clog$(C z)<%
      T a=fabs$(__real__ z),b=fabs$(__imag__ z),t,r;if(a<b)t=a,a=b,b=t;
      if(a==1)r=log1p$(b*b)/2;else if(a>1&&a<2&&b<1)r=log1p$((a-1)*(a+1)+b*b)/2;
      else r=log$(hypot$(a,b));return __builtin_complex(r,atan2$(__imag__ z,__real__ z));%>"),
    ("csqrt", "T sqrt$(T),hypot$(T,T),fabs$(T),copysign$(T,T);C csqrt$(C z)<%
      T x=__real__ z,y=__imag__ z,d,r,s;
      if(y==0)<%if(x<0)return __builtin_complex((T)0,copysign$(sqrt$(-x),y));
      return __builtin_complex(fabs$(sqrt$(x)),copysign$(0,y));%>
      if(x==0)<%r=sqrt$(fabs$(y)/2);return __builtin_complex(r,copysign$(r,y));%>
      d=hypot$(x,y);if(x>0)<%r=sqrt$((d+x)/2);s=y/r/2;%>else<%s=sqrt$((d-x)/2);r=fabs$(y/s/2);%>
      return __builtin_complex(r,copysign$(s,y));%>"),
    ("cpow", "C cexp$(C),clog$(C);C cpow$(C a,C b)<%return cexp$(b*clog$(a));%>"),
    ("csin", "T sin$(T),cos$(T),sinh$(T),cosh$(T);C csin$(C z)<%T x=__real__ z,y=__imag__ z;
      return __builtin_complex(cosh$(y)*sin$(x),sinh$(y)*cos$(x));%>"),
    ("ccos", "T sin$(T),cos$(T),sinh$(T),cosh$(T);C ccos$(C z)<%T x=__real__ z,y=__imag__ z;
      return __builtin_complex(cosh$(y)*cos$(x),-sinh$(y)*sin$(x));%>"),
    ("ctan", "T sin$(T),cos$(T),sinh$(T),cosh$(T);C ctan$(C z)<%T x=__real__ z,y=__imag__ z;
      T s=sin$(x),c=cos$(x),h=sinh$(y),d=c*c+h*h;return __builtin_complex(s*c/d,h*cosh$(y)/d);%>"),
    ("csinh", "T sin$(T),cos$(T),sinh$(T),cosh$(T);C csinh$(C z)<%T x=__real__ z,y=__imag__ z;
      return __builtin_complex(sinh$(x)*cos$(y),cosh$(x)*sin$(y));%>"),
    ("ccosh", "T sin$(T),cos$(T),sinh$(T),cosh$(T);C ccosh$(C z)<%T x=__real__ z,y=__imag__ z;
      return __builtin_complex(cosh$(x)*cos$(y),sinh$(x)*sin$(y));%>"),
    ("ctanh", "T sin$(T),cos$(T),sinh$(T),cosh$(T);C ctanh$(C z)<%T x=__real__ z,y=__imag__ z;
      T s=sin$(y),c=cos$(y),h=sinh$(x),d=h*h+c*c;return __builtin_complex(h*cosh$(x)/d,s*c/d);%>"),
    ("catan", "T atan2$(T,T),log$(T);C catan$(C z)<%T x=__real__ z,y=__imag__ z;
      return __builtin_complex(atan2$(2*x,(1-x)*(1+x)-y*y)/2,
      log$((x*x+(y+1)*(y+1))/(x*x+(y-1)*(y-1)))/4);%>"),
    ("catanh", "T atan2$(T,T),log$(T);C catanh$(C z)<%T x=__real__ z,y=__imag__ z;
      return __builtin_complex((log$((1+x)*(1+x)+y*y)-log$((1-x)*(1-x)+y*y))/4,
      atan2$(2*y,(1-x)*(1+x)-y*y)/2);%>"),
    ("casinh", "C csqrt$(C),clog$(C);C casinh$(C z)<%return clog$(z+csqrt$(z*z+1));%>"),
    ("cacosh", "C csqrt$(C),clog$(C);C cacosh$(C z)<%return clog$(z+csqrt$(z+1)*csqrt$(z-1));%>"),
    ("casin", "C casinh$(C);C casin$(C z)<%C y=casinh$(__builtin_complex(-__imag__ z,__real__ z));
      return __builtin_complex(__imag__ y,-__real__ y);%>"),
    ("cacos", "C casin$(C);C cacos$(C z)<%C y=casin$(z);
      return __builtin_complex((T)1.57079632679489661923L-__real__ y,-__imag__ y);%>")]

/-- What divides complex numbers whose parts have a type. -/
def divider (name type : String) : Source :=
  ([name], filled "" type ("C " ++ name ++ "(T a,T b,T c,T d)<%T r,n,x,y;
    if((c<0?-c:c)<(d<0?-d:d))<%r=c/d;n=c*r+d;x=(a*r+b)/n;y=(b*r-a)/n;%>
    else<%r=d/c;n=d*r+c;x=(a+b*r)/n;y=(b-a*r)/n;%>return __builtin_complex(x,y);%>"))

/-- What divides complex numbers whose parts are narrow: it does so in wider ones. -/
def narrowDivider (name : String) : Source :=
  ([name], "float _Complex " ++ name ++ "(double a,double b,double c,double d)<%double n=c*c+d*d;
    return __builtin_complex((float)((a*c+b*d)/n),(float)((b*c-a*d)/n));%>")

/-- A function in all its forms. -/
def formsOf (function : String × String) : List Source :=
  widths.map fun (letter, type) => ([function.1 ++ letter], filled letter type function.2)

/-- The type of the result of a function, and those of its arguments. -/
def declared (name : String) : String × String :=
  let result := if ["cabs", "carg", "creal", "cimag"].contains name then "T" else "T _Complex"
  (result, if name = "cpow" then "(T _Complex,T _Complex)" else "(T _Complex)")

/-- The declaration of a function in all its forms. -/
def declaration (name : String) : String :=
  let (result, arguments) := declared name
  String.join (widths.map fun (letter, type) =>
    String.join (((result ++ " " ++ name ++ "$" ++ arguments ++ ";").toList.map fun char =>
      if char = '$' then letter else if char = 'T' then type else char.toString)))

/-- The names of the functions. -/
def names : List String := (known ++ others).map (·.1)

/-- The header. -/
def header : String :=
  "#define complex _Complex
  #define _Complex_I (__extension__ 1.0iF)
  #undef I
  #define I _Complex_I
  #define CMPLX(x,y) __builtin_complex((double)(x),(double)(y))
  #define CMPLXF(x,y) __builtin_complex((float)(x),(float)(y))
  #define CMPLXL(x,y) __builtin_complex((long double)(x),(long double)(y))\n"
    ++ String.join (names.map declaration)

/-- Functions that serve all types of numbers, and that have a form for complex ones. -/
def bothKinds : List String :=
  ["sqrt", "exp", "log", "sin", "cos", "tan", "asin", "acos", "atan", "sinh", "cosh", "tanh", "asinh",
    "acosh", "atanh"]

/-- Functions on one number that serve all types of numbers. -/
def onReals : List String :=
  ["cbrt", "ceil", "floor", "round", "trunc", "rint", "nearbyint", "log2", "log10", "log1p", "exp2",
    "expm1", "lround", "llround", "lrint", "llrint", "ilogb", "logb"]

/-- Functions on two numbers that serve all types of numbers. -/
def onTwo : List String :=
  ["atan2", "fmod", "hypot", "fmin", "fmax", "fdim", "copysign", "remainder"]

/-- The header that chooses functions by the types of numbers. -/
def generic : String :=
  let ordinary (name : String) : String :=
    "float:" ++ name ++ "f,long double:" ++ name ++ "l,default:" ++ name
  let whole (name : String) : String :=
    "float _Complex:" ++ name ++ "f,double _Complex:" ++ name ++ ",long double _Complex:" ++ name
      ++ "l,"
  let one (name choice : String) : String :=
    "#undef " ++ name ++ "\n#define " ++ name ++ "(x) _Generic((x)," ++ choice ++ ")(x)\n"
  let two (name choice : String) : String :=
    "#undef " ++ name ++ "\n#define " ++ name ++ "(x,y) _Generic((x)+(y)," ++ choice ++ ")(x,y)\n"
  "#include <math.h>\n#include <complex.h>\n"
    ++ String.join (bothKinds.map fun name => one name (whole ("c" ++ name) ++ ordinary name))
    ++ String.join (onReals.map fun name => one name (ordinary name))
    ++ String.join (onTwo.map fun name => two name (ordinary name))
    ++ one "fabs" (whole "cabs" ++ ordinary "fabs")
    ++ two "pow" (whole "cpow" ++ ordinary "pow")
    ++ String.join (["carg", "cimag", "creal", "conj", "cproj"].map fun name =>
      one name ("float _Complex:" ++ name ++ "f,float:" ++ name ++ "f,long double _Complex:" ++ name
        ++ "l,long double:" ++ name ++ "l,default:" ++ name))

/-- The symbols that are in the library on numbers. -/
def mathematics : List String :=
  others.flatMap fun function => widths.map fun width => function.1 ++ width.1

/-- Complex numbers. -/
def part : Part where
  headers := [("complex.h", header), ("tgmath.h", generic)]
  sources := narrowDivider "__divsc3" :: divider "__divdc3" "double"
    :: divider "__divxc3" "long double" :: (known ++ others).flatMap formsOf

end KernelCache.Standard.Complex

/-! ## Rows of numbers by the names of the instructions of the machine

Each name stands for an operator on rows. A row of integers has one type, whatever the width of its
numbers is.
-/

namespace KernelCache.Standard.Vector

/-- What is in front of a function. -/
def front : String := "static inline __attribute__((always_inline)) "

/-- A function with its result, its name and parameters, and the value that it returns. -/
def function (result head value : String) : String :=
  front ++ result ++ " " ++ head ++ "<%return " ++ value ++ ";%>\n"

/-- The widths of integers: the end of names, the type, and how many are in a row. -/
def widths : List (String × String × Nat) :=
  [("epi8", "char", 16), ("epi16", "short", 8), ("epi32", "int", 4), ("epi64", "long long", 2)]

/-- Names of operators. -/
def operators : List (String × String) := [("add", "+"), ("sub", "-")]

/-- Functions on integers of a width. -/
def onIntegers (width : String × String × Nat) : String :=
  let (ends, type, count) := width
  let row := "__v" ++ ends
  let casted (name : String) : String := "(" ++ row ++ ")" ++ name
  "typedef " ++ type ++ " " ++ row ++ " __attribute__((vector_size(16)));\n"
    ++ String.join (operators.map fun (name, sign) =>
      function "__m128i" ("_mm_" ++ name ++ "_" ++ ends ++ "(__m128i a,__m128i b)")
        ("(__m128i)(" ++ casted "a" ++ sign ++ casted "b" ++ ")"))
    ++ String.join ([("cmpeq", "=="), ("cmpgt", ">"), ("cmplt", "<")].map fun (name, sign) =>
      function "__m128i" ("_mm_" ++ name ++ "_" ++ ends ++ "(__m128i a,__m128i b)")
        ("(__m128i)(" ++ casted "a" ++ sign ++ casted "b" ++ ")"))
    ++ function "__m128i" ("_mm_set1_" ++ (if ends = "epi64" then "epi64x" else ends) ++ "(" ++ type
        ++ " a)") ("(__m128i)(" ++ row ++ ")<%" ++ ",".intercalate (List.replicate count "a") ++ "%>")

/-- Functions on numbers in floating point. -/
def onReals (ends row type : String) (count : Nat) : String :=
  let both (name sign : String) : String :=
    function row ("_mm_" ++ name ++ "_" ++ ends ++ "(" ++ row ++ " a," ++ row ++ " b)")
      ("a" ++ sign ++ "b")
  let names := (List.range count).map fun index => "abcd".toList.getD index 'a' |>.toString
  let listed (names : List String) : String := ",".intercalate names
  let parameters := listed (names.map fun name => type ++ " " ++ name)
  String.join ([("add", "+"), ("sub", "-"), ("mul", "*"), ("div", "/")].map fun (name, sign) =>
      both name sign)
    ++ function row ("_mm_set1_" ++ ends ++ "(" ++ type ++ " a)")
      ("(" ++ row ++ ")<%" ++ listed (List.replicate count "a") ++ "%>")
    ++ function row ("_mm_set_" ++ ends ++ "(" ++ parameters ++ ")")
      ("(" ++ row ++ ")<%" ++ listed names.reverse ++ "%>")
    ++ function row ("_mm_setr_" ++ ends ++ "(" ++ parameters ++ ")")
      ("(" ++ row ++ ")<%" ++ listed names ++ "%>")
    ++ function row ("_mm_setzero_" ++ ends ++ "(void)") ("(" ++ row ++ ")<%0%>")
    ++ String.join (["load", "loadu"].map fun name =>
      function row ("_mm_" ++ name ++ "_" ++ ends ++ "(const " ++ type ++ "*p)")
        ("*(const " ++ row ++ "*)p"))
    ++ String.join (["store", "storeu"].map fun name =>
      front ++ "void _mm_" ++ name ++ "_" ++ ends ++ "(" ++ type ++ "*p," ++ row ++ " a)<%*(" ++ row
        ++ "*)p=a;%>\n")
    ++ String.join ([("min", "<"), ("max", ">")].map fun (name, sign) =>
      front ++ row ++ " _mm_" ++ name ++ "_" ++ ends ++ "(" ++ row ++ " a," ++ row
        ++ " b)<%for(int i=0;i<" ++ toString count ++ ";i++)if(!(a[i]" ++ sign
        ++ "b[i]))a[i]=b[i];return a;%>\n")
    ++ front ++ row ++ " _mm_sqrt_" ++ ends ++ "(" ++ row ++ " a)<%for(int i=0;i<" ++ toString count
      ++ ";i++)a[i]=__builtin_sqrt(a[i]);return a;%>\n"

/-- The header. -/
def header : String :=
  "#pragma once
  typedef long long __m128i __attribute__((vector_size(16)));
  typedef float __m128 __attribute__((vector_size(16)));
  typedef double __m128d __attribute__((vector_size(16)));\n"
    ++ String.join (widths.map onIntegers) ++ onReals "ps" "__m128" "float" 4
    ++ onReals "pd" "__m128d" "double" 2
    ++ String.join ([("and", "&"), ("or", "|"), ("xor", "^")].map fun (name, sign) =>
      function "__m128i" ("_mm_" ++ name ++ "_si128(__m128i a,__m128i b)") ("a" ++ sign ++ "b"))
    ++ function "__m128i" "_mm_andnot_si128(__m128i a,__m128i b)" "~a&b"
    ++ function "__m128i" "_mm_setzero_si128(void)" "(__m128i)<%0%>"
    ++ function "__m128i" "_mm_set_epi32(int a,int b,int c,int d)"
      "(__m128i)(__vepi32)<%d,c,b,a%>"
    ++ function "__m128i" "_mm_setr_epi32(int a,int b,int c,int d)"
      "(__m128i)(__vepi32)<%a,b,c,d%>"
    ++ function "__m128i" "_mm_set_epi64x(long long a,long long b)" "(__m128i)<%b,a%>"
    ++ String.join (["load", "loadu", "lddqu"].map fun name =>
      function "__m128i" ("_mm_" ++ name ++ "_si128(const __m128i*p)") "*p")
    ++ String.join (["store", "storeu"].map fun name =>
      front ++ "void _mm_" ++ name ++ "_si128(__m128i*p,__m128i a)<%*p=a;%>\n")
    ++ function "int" "_mm_cvtsi128_si32(__m128i a)" "((__vepi32)a)[0]"
    ++ function "long long" "_mm_cvtsi128_si64(__m128i a)" "a[0]"
    ++ function "__m128i" "_mm_cvtsi32_si128(int a)" "(__m128i)(__vepi32)<%a,0,0,0%>"
    ++ function "float" "_mm_cvtss_f32(__m128 a)" "a[0]"
    ++ function "double" "_mm_cvtsd_f64(__m128d a)" "a[0]"
    ++ function "__m128" "_mm_castsi128_ps(__m128i a)" "(__m128)a"
    ++ function "__m128i" "_mm_castps_si128(__m128 a)" "(__m128i)a"
    ++ function "__m128" "_mm_cvtepi32_ps(__m128i a)" "__builtin_convertvector((__vepi32)a,__m128)"
    ++ function "__m128i" "_mm_cvttps_epi32(__m128 a)"
      "(__m128i)__builtin_convertvector(a,__vepi32)"
    ++ function "__m128i" "_mm_slli_epi32(__m128i a,int b)" "(__m128i)((__vepi32)a<<b)"
    ++ function "__m128i" "_mm_srai_epi32(__m128i a,int b)" "(__m128i)((__vepi32)a>>b)"
    ++ front ++ "__m128i _mm_mullo_epi16(__m128i a,__m128i b)<%
      return(__m128i)((__vepi16)a*(__vepi16)b);%>
      " ++ front ++ "int _mm_movemask_ps(__m128 a)<%__vepi32 b=(__vepi32)a;
      return(b[0]<0)|(b[1]<0)<<1|(b[2]<0)<<2|(b[3]<0)<<3;%>
      " ++ front ++ "int _mm_movemask_epi8(__m128i a)<%__vepi8 b=(__vepi8)a;int r=0;
      for(int i=0;i<16;i++)r|=(b[i]<0)<<i;return r;%>
      #define _MM_SHUFFLE(a,b,c,d) (((a)<<6)|((b)<<4)|((c)<<2)|(d))
      #define _mm_shuffle_epi32(a,n) ((__m128i)__builtin_shuffle((__vepi32)(a),\\
      (__vepi32)<%(n)&3,(n)>>2&3,(n)>>4&3,(n)>>6&3%>))
      #define _mm_shuffle_ps(a,b,n) (__builtin_shuffle((__m128)(a),(__m128)(b),\\
      (__vepi32)<%(n)&3,(n)>>2&3,((n)>>4&3)+4,((n)>>6&3)+4%>))
      #define _mm_pause() ((void)0)
      #define _mm_mfence() ((void)0)
      #define _mm_sfence() ((void)0)
      #define _mm_lfence() ((void)0)
      #define _mm_free(p) __builtin_free(p)
      #define _mm_malloc(n,a) __builtin_aligned_alloc(a,n)"

/-- Rows of numbers. -/
def part : Part where
  headers := ["immintrin.h", "x86intrin.h", "emmintrin.h", "xmmintrin.h"].map fun name =>
    (name, header)
  sources := []

end KernelCache.Standard.Vector
