import KernelCache.Standard.Declaration
import KernelCache.Standard.Thread
import KernelCache.Standard.Plus.Failure

/-
**Headers of the library for C.**

`Header.inC?` is the text of a header by its name. A header can be read more than once, and sources
in C++ can read it, too.
-/

namespace KernelCache.Standard.Header

/-- Functions on texts. -/
def string : String := need ["size_t", "NULL"] ++
  "void*memcpy(void*,const void*,size_t);void*memmove(void*,const void*,size_t);
  void*memset(void*,int,size_t);int memcmp(const void*,const void*,size_t);
  char*strcpy(char*,const char*);char*strncpy(char*,const char*,size_t);
  char*strcat(char*,const char*);char*strncat(char*,const char*,size_t);
  int strcmp(const char*,const char*);int strncmp(const char*,const char*,size_t);
  int strcoll(const char*,const char*);size_t strxfrm(char*,const char*,size_t);
  size_t strcspn(const char*,const char*);size_t strspn(const char*,const char*);
  char*strtok(char*,const char*);char*strtok_r(char*,const char*,char**);
  size_t strlen(const char*);size_t strnlen(const char*,size_t);char*strerror(int);
  char*strdup(const char*);char*strndup(const char*,size_t);char*stpcpy(char*,const char*);
  int strcasecmp(const char*,const char*);int strncasecmp(const char*,const char*,size_t);
  void*memccpy(void*,const void*,int,size_t);char*strsep(char**,const char*);
  void bzero(void*,size_t);void bcopy(const void*,void*,size_t);
  int bcmp(const void*,const void*,size_t);int ffs(int);
  void*mempcpy(void*,const void*,size_t);void*memmem(const void*,size_t,const void*,size_t);
  char*index(const char*,int);char*rindex(const char*,int);
  void*memchr(const void*,int,size_t);char*strchr(const char*,int);char*strrchr(const char*,int);
  char*strstr(const char*,const char*);char*strpbrk(const char*,const char*);
  #ifdef _GNU_SOURCE
  void*memrchr(const void*,int,size_t);char*strchrnul(const char*,int);
  void*rawmemchr(const void*,int);
  #endif"

/-- Output and input. -/
def stdio : String := need ["size_t", "NULL", "FILE", "va_list", "off_t", "ssize_t"] ++
  "extern FILE*stdin,*stdout,*stderr;
  #define stdin stdin
  #define stdout stdout
  #define stderr stderr
  #define EOF (-1)
  #define BUFSIZ 8192
  #define SEEK_SET 0
  #define SEEK_CUR 1
  #define SEEK_END 2
  #define FILENAME_MAX 4096
  #define FOPEN_MAX 16
  #define L_tmpnam 20
  #define TMP_MAX 238328
  #define _IOFBF 0
  #define _IOLBF 1
  #define _IONBF 2
  typedef struct<%off_t a;%>fpos_t;
  int printf(const char*,...);int fprintf(FILE*,const char*,...);int sprintf(char*,const char*,...);
  int snprintf(char*,size_t,const char*,...);int vprintf(const char*,va_list);
  int vfprintf(FILE*,const char*,va_list);int vsprintf(char*,const char*,va_list);
  int vsnprintf(char*,size_t,const char*,va_list);int dprintf(int,const char*,...);
  int vdprintf(int,const char*,va_list);int asprintf(char**,const char*,...);
  int vasprintf(char**,const char*,va_list);
  int scanf(const char*,...);int fscanf(FILE*,const char*,...);int sscanf(const char*,const char*,...);
  int vscanf(const char*,va_list);int vsscanf(const char*,const char*,va_list);
  int vfscanf(FILE*,const char*,va_list);
  int puts(const char*);int putchar(int);int putc(int,FILE*);int fputc(int,FILE*);
  int fputs(const char*,FILE*);int getchar(void);int getc(FILE*);int fgetc(FILE*);
  char*fgets(char*,int,FILE*);int ungetc(int,FILE*);size_t fwrite(const void*,size_t,size_t,FILE*);
  size_t fread(void*,size_t,size_t,FILE*);FILE*fopen(const char*,const char*);int fclose(FILE*);
  FILE*freopen(const char*,const char*,FILE*);FILE*fdopen(int,const char*);FILE*tmpfile(void);
  int fflush(FILE*);int feof(FILE*);int ferror(FILE*);void clearerr(FILE*);int fileno(FILE*);
  int fseek(FILE*,long,int);long ftell(FILE*);void rewind(FILE*);int fgetpos(FILE*,fpos_t*);
  int fsetpos(FILE*,const fpos_t*);int setvbuf(FILE*,char*,int,size_t);void setbuf(FILE*,char*);
  void perror(const char*);int remove(const char*);int rename(const char*,const char*);
  char*tmpnam(char*);ssize_t getline(char**,size_t*,FILE*);FILE*popen(const char*,const char*);
  int pclose(FILE*);"

/-- Memory, numbers, and the run. -/
def stdlib : String := need ["size_t", "NULL", "wchar_t"] ++
  "#define EXIT_SUCCESS 0
  #define EXIT_FAILURE 1
  #define RAND_MAX 2147483647
  #define MB_CUR_MAX ((size_t)1)
  typedef struct<%int quot,rem;%>div_t;typedef struct<%long quot,rem;%>ldiv_t;
  typedef struct<%long long quot,rem;%>lldiv_t;
  void*malloc(size_t);void*calloc(size_t,size_t);void*realloc(void*,size_t);void free(void*);
  void*reallocarray(void*,size_t,size_t);
  void*aligned_alloc(size_t,size_t);int posix_memalign(void**,size_t,size_t);
  void abort(void)__attribute__((noreturn));void exit(int)__attribute__((noreturn));
  void _Exit(int)__attribute__((noreturn));void quick_exit(int)__attribute__((noreturn));
  int atexit(void(*)(void));int at_quick_exit(void(*)(void));char*getenv(const char*);
  int setenv(const char*,const char*,int);int unsetenv(const char*);int putenv(char*);
  int system(const char*);int atoi(const char*);long atol(const char*);long long atoll(const char*);
  double atof(const char*);long strtol(const char*,char**,int);
  unsigned long strtoul(const char*,char**,int);long long strtoll(const char*,char**,int);
  unsigned long long strtoull(const char*,char**,int);double strtod(const char*,char**);
  float strtof(const char*,char**);long double strtold(const char*,char**);
  int abs(int);long labs(long);long long llabs(long long);div_t div(int,int);ldiv_t ldiv(long,long);
  lldiv_t lldiv(long long,long long);int rand(void);void srand(unsigned);int rand_r(unsigned*);
  long random(void);void srandom(unsigned);
  void qsort(void*,size_t,size_t,int(*)(const void*,const void*));
  void qsort_r(void*,size_t,size_t,int(*)(const void*,const void*,void*),void*);
  void*bsearch(const void*,const void*,size_t,size_t,int(*)(const void*,const void*));
  int mblen(const char*,size_t);int mbtowc(wchar_t*,const char*,size_t);int wctomb(char*,wchar_t);
  size_t mbstowcs(wchar_t*,const char*,size_t);size_t wcstombs(char*,const wchar_t*,size_t);
  char*secure_getenv(const char*);int clearenv(void);char*realpath(const char*,char*);int mkstemp(char*);"

/-- Names of functions of one number in floating point. -/
def unaryMath : List String :=
  ["sqrt", "sin", "cos", "tan", "asin", "acos", "atan", "sinh", "cosh", "tanh", "asinh", "acosh",
    "atanh", "exp", "exp2", "log", "log2", "log10", "cbrt", "ceil", "floor", "round", "trunc", "rint",
    "nearbyint", "fabs", "log1p", "expm1", "logb", "tgamma", "lgamma", "erf", "erfc"]

/-- Names of functions of two numbers in floating point. -/
def binaryMath : List String :=
  ["pow", "atan2", "fmod", "remainder", "copysign", "hypot", "fmin", "fmax", "fdim", "nextafter"]

/-- The forms of a function for the widths of its numbers. -/
def forms (declaration : String → String → String) : String :=
  declaration "double" "" ++ declaration "float" "f" ++ declaration "long double" "l"

/-- Functions on numbers in floating point. -/
def math : String :=
  "#define HUGE_VAL (__builtin_huge_val())
  #define HUGE_VALF (__builtin_huge_valf())
  #define HUGE_VALL (__builtin_huge_vall())
  #define INFINITY (__builtin_inff())
  #define NAN (__builtin_nanf(\"\"))
  #define FP_NAN 0
  #define FP_INFINITE 1
  #define FP_ZERO 2
  #define FP_SUBNORMAL 3
  #define FP_NORMAL 4
  #define MATH_ERRNO 1
  #define MATH_ERREXCEPT 2
  #define math_errhandling 3
  #if !defined __STRICT_ANSI__ || defined _GNU_SOURCE || defined _DEFAULT_SOURCE
  #define M_E 2.7182818284590452354
  #define M_LOG2E 1.4426950408889634074
  #define M_LOG10E 0.43429448190325182765
  #define M_LN2 0.69314718055994530942
  #define M_LN10 2.30258509299404568402
  #define M_PI 3.14159265358979323846
  #define M_PI_2 1.57079632679489661923
  #define M_PI_4 0.78539816339744830962
  #define M_1_PI 0.31830988618379067154
  #define M_2_PI 0.63661977236758134308
  #define M_2_SQRTPI 1.12837916709551257390
  #define M_SQRT2 1.41421356237309504880
  #define M_SQRT1_2 0.70710678118654752440
  #endif
  typedef float float_t;typedef double double_t;
  #ifndef __cplusplus
  #define isnan(x) __builtin_isnan(x)
  #define isinf(x) __builtin_isinf_sign(x)
  #define isfinite(x) __builtin_isfinite(x)
  #define isnormal(x) __builtin_isnormal(x)
  #define signbit(x) __builtin_signbit(x)
  #define isgreater(x,y) __builtin_isgreater(x,y)
  #define isless(x,y) __builtin_isless(x,y)
  #define isgreaterequal(x,y) __builtin_isgreaterequal(x,y)
  #define islessequal(x,y) __builtin_islessequal(x,y)
  #endif\n"
  ++ forms (fun type letter => String.join (unaryMath.map fun name =>
      type ++ " " ++ name ++ letter ++ "(" ++ type ++ ");"))
  ++ forms (fun type letter => String.join (binaryMath.map fun name =>
      type ++ " " ++ name ++ letter ++ "(" ++ type ++ "," ++ type ++ ");"))
  ++ forms (fun type letter => type ++ " ldexp" ++ letter ++ "(" ++ type ++ ",int);"
      ++ type ++ " scalbn" ++ letter ++ "(" ++ type ++ ",int);"
      ++ type ++ " frexp" ++ letter ++ "(" ++ type ++ ",int*);"
      ++ type ++ " modf" ++ letter ++ "(" ++ type ++ "," ++ type ++ "*);"
      ++ type ++ " fma" ++ letter ++ "(" ++ type ++ "," ++ type ++ "," ++ type ++ ");"
      ++ "long lround" ++ letter ++ "(" ++ type ++ ");long lrint" ++ letter ++ "(" ++ type ++ ");"
      ++ "long long llround" ++ letter ++ "(" ++ type ++ ");long long llrint" ++ letter ++ "("
      ++ type ++ ");int ilogb" ++ letter ++ "(" ++ type ++ ");")

/-- Integers of known widths. -/
def stdint : String := need ["bits_int", "intptr_t", "uintptr_t"] ++
  "typedef unsigned char uint8_t;typedef unsigned short uint16_t;typedef unsigned uint32_t;
  typedef unsigned long uint64_t;typedef long intmax_t;typedef unsigned long uintmax_t;
  typedef signed char int_least8_t;typedef short int_least16_t;typedef int int_least32_t;
  typedef long int_least64_t;typedef unsigned char uint_least8_t;
  typedef unsigned short uint_least16_t;typedef unsigned uint_least32_t;
  typedef unsigned long uint_least64_t;typedef signed char int_fast8_t;typedef long int_fast16_t;
  typedef long int_fast32_t;typedef long int_fast64_t;typedef unsigned char uint_fast8_t;
  typedef unsigned long uint_fast16_t;typedef unsigned long uint_fast32_t;
  typedef unsigned long uint_fast64_t;
  #define INT8_MIN (-128)
  #define INT16_MIN (-32767-1)
  #define INT32_MIN (-2147483647-1)
  #define INT64_MIN (-9223372036854775807L-1)
  #define INT8_MAX (127)
  #define INT16_MAX (32767)
  #define INT32_MAX (2147483647)
  #define INT64_MAX (9223372036854775807L)
  #define UINT8_MAX (255)
  #define UINT16_MAX (65535)
  #define UINT32_MAX (4294967295U)
  #define UINT64_MAX (18446744073709551615UL)
  #define INT_LEAST8_MIN INT8_MIN
  #define INT_LEAST16_MIN INT16_MIN
  #define INT_LEAST32_MIN INT32_MIN
  #define INT_LEAST64_MIN INT64_MIN
  #define INT_LEAST8_MAX INT8_MAX
  #define INT_LEAST16_MAX INT16_MAX
  #define INT_LEAST32_MAX INT32_MAX
  #define INT_LEAST64_MAX INT64_MAX
  #define UINT_LEAST8_MAX UINT8_MAX
  #define UINT_LEAST16_MAX UINT16_MAX
  #define UINT_LEAST32_MAX UINT32_MAX
  #define UINT_LEAST64_MAX UINT64_MAX
  #define INT_FAST8_MIN INT8_MIN
  #define INT_FAST16_MIN INT64_MIN
  #define INT_FAST32_MIN INT64_MIN
  #define INT_FAST64_MIN INT64_MIN
  #define INT_FAST8_MAX INT8_MAX
  #define INT_FAST16_MAX INT64_MAX
  #define INT_FAST32_MAX INT64_MAX
  #define INT_FAST64_MAX INT64_MAX
  #define UINT_FAST8_MAX UINT8_MAX
  #define UINT_FAST16_MAX UINT64_MAX
  #define UINT_FAST32_MAX UINT64_MAX
  #define UINT_FAST64_MAX UINT64_MAX
  #define INTPTR_MIN INT64_MIN
  #define INTPTR_MAX INT64_MAX
  #define UINTPTR_MAX UINT64_MAX
  #define INTMAX_MIN INT64_MIN
  #define INTMAX_MAX INT64_MAX
  #define UINTMAX_MAX UINT64_MAX
  #define PTRDIFF_MIN INT64_MIN
  #define PTRDIFF_MAX INT64_MAX
  #define SIG_ATOMIC_MIN INT32_MIN
  #define SIG_ATOMIC_MAX INT32_MAX
  #define SIZE_MAX (18446744073709551615UL)
  #define WCHAR_MIN INT32_MIN
  #define WCHAR_MAX INT32_MAX
  #define WINT_MIN 0u
  #define WINT_MAX UINT32_MAX
  #define INT8_C(c) c
  #define INT16_C(c) c
  #define INT32_C(c) c
  #define INT64_C(c) c ## L
  #define UINT8_C(c) c
  #define UINT16_C(c) c
  #define UINT32_C(c) c ## U
  #define UINT64_C(c) c ## UL
  #define INTMAX_C(c) c ## L
  #define UINTMAX_C(c) c ## UL"

/-- Formats of integers of known widths. -/
def inttypes : String :=
  let letters : List (String × String × String) := [("8", "hh", "hh"), ("16", "h", "h"), ("32", "", ""),
    ("64", "l", "l"), ("MAX", "l", "l"), ("PTR", "l", "l")]
  let kinds : List String := ["d", "i", "u", "o", "x", "X"]
  stdint ++ "\n" ++ String.join (letters.flatMap fun (width, print, scan) =>
    kinds.flatMap fun kind =>
      ["\n#define PRI" ++ kind ++ width ++ " \"" ++ print ++ kind ++ "\"",
        "\n#define SCN" ++ kind ++ width ++ " \"" ++ scan ++ kind ++ "\""])
  ++ "\ntypedef struct<%intmax_t quot,rem;%>imaxdiv_t;intmax_t imaxabs(intmax_t);
  imaxdiv_t imaxdiv(intmax_t,intmax_t);intmax_t strtoimax(const char*,char**,int);
  uintmax_t strtoumax(const char*,char**,int);"

/-- Limits of integers. -/
def limits : String :=
  "#define CHAR_BIT 8
  #define SCHAR_MIN (-128)
  #define SCHAR_MAX 127
  #define UCHAR_MAX 255
  #ifdef __CHAR_UNSIGNED__
  #define CHAR_MIN 0
  #define CHAR_MAX 255
  #else
  #define CHAR_MIN (-128)
  #define CHAR_MAX 127
  #endif
  #define MB_LEN_MAX 16
  #define SHRT_MIN (-32768)
  #define SHRT_MAX 32767
  #define USHRT_MAX 65535
  #define INT_MIN (-2147483647-1)
  #define INT_MAX 2147483647
  #define UINT_MAX 4294967295U
  #define LONG_MIN (-9223372036854775807L-1L)
  #define LONG_MAX 9223372036854775807L
  #define ULONG_MAX 18446744073709551615UL
  #define LLONG_MIN (-9223372036854775807LL-1LL)
  #define LLONG_MAX 9223372036854775807LL
  #define ULLONG_MAX 18446744073709551615ULL
  #define SSIZE_MAX LONG_MAX
  #define PATH_MAX 4096
  #define NAME_MAX 255
  #define PIPE_BUF 4096
  #define IOV_MAX 1024"

/-- Limits of numbers in floating point. -/
def float : String :=
  "#define FLT_RADIX 2
  #define FLT_ROUNDS 1
  #define FLT_EVAL_METHOD 0
  #define DECIMAL_DIG 21
  #define FLT_MANT_DIG 24
  #define DBL_MANT_DIG 53
  #define LDBL_MANT_DIG 64
  #define FLT_DECIMAL_DIG 9
  #define DBL_DECIMAL_DIG 17
  #define LDBL_DECIMAL_DIG 21
  #define FLT_DIG 6
  #define DBL_DIG 15
  #define LDBL_DIG 18
  #define FLT_MIN_EXP (-125)
  #define DBL_MIN_EXP (-1021)
  #define LDBL_MIN_EXP (-16381)
  #define FLT_MAX_EXP 128
  #define DBL_MAX_EXP 1024
  #define LDBL_MAX_EXP 16384
  #define FLT_MIN_10_EXP (-37)
  #define DBL_MIN_10_EXP (-307)
  #define LDBL_MIN_10_EXP (-4931)
  #define FLT_MAX_10_EXP 38
  #define DBL_MAX_10_EXP 308
  #define LDBL_MAX_10_EXP 4932
  #define FLT_MAX 3.40282346638528859811704183484516925e+38F
  #define DBL_MAX ((double)1.79769313486231570814527423731704357e+308L)
  #define FLT_EPSILON 1.19209289550781250000000000000000000e-7F
  #define DBL_EPSILON ((double)2.22044604925031308084726333618164062e-16L)
  #define LDBL_EPSILON 1.08420217248550443400745280086994171e-19L
  #define FLT_MIN 1.17549435082228750796873653722224568e-38F
  #define DBL_MIN ((double)2.22507385850720138309023271733240406e-308L)
  #define FLT_TRUE_MIN 1.40129846432481707092372958328991613e-45F
  #define DBL_TRUE_MIN ((double)4.94065645841246544176568792868221372e-324L)
  #define FLT_HAS_SUBNORM 1
  #define DBL_HAS_SUBNORM 1
  #define LDBL_HAS_SUBNORM 1"

/-- Types and macros that nearly all sources need. -/
def stddef : String := need ["size_t", "NULL", "ptrdiff_t", "wchar_t"] ++
  "typedef struct<%long long a;long double b;%>max_align_t;
  #define offsetof(t,m) __builtin_offsetof(t,m)"

/-- Further arguments of functions. -/
def stdarg : String := need ["va_list"] ++
  "#define va_start(a,...) __builtin_va_start(a,__VA_ARGS__)
  #define va_end(a) __builtin_va_end(a)
  #define va_arg(a,t) __builtin_va_arg(a,t)
  #define va_copy(a,b) __builtin_va_copy(a,b)"

/-- Functions on characters. -/
def ctype : String :=
  String.join (["alnum", "alpha", "cntrl", "digit", "graph", "lower", "print", "punct", "space",
    "upper", "xdigit", "blank", "ascii"].map fun name => "int is" ++ name ++ "(int);")
  ++ "int toupper(int);int tolower(int);int toascii(int);"

/-- Numbers of errors. -/
def errno : String :=
  "extern int*__errno_location(void);
  #define errno (*__errno_location())\n"
  ++ String.join ((["EPERM", "ENOENT", "ESRCH", "EINTR", "EIO", "ENXIO", "E2BIG", "ENOEXEC", "EBADF",
    "ECHILD", "EAGAIN", "ENOMEM", "EACCES", "EFAULT", "ENOTBLK", "EBUSY", "EEXIST", "EXDEV",
    "ENODEV", "ENOTDIR", "EISDIR", "EINVAL", "ENFILE", "EMFILE", "ENOTTY", "ETXTBSY", "EFBIG",
    "ENOSPC", "ESPIPE", "EROFS", "EMLINK", "EPIPE", "EDOM", "ERANGE", "EDEADLK", "ENAMETOOLONG",
    "ENOLCK", "ENOSYS", "ENOTEMPTY", "ELOOP"]).zipIdx.map fun (name, index) =>
      "#define " ++ name ++ " " ++ toString (index + 1) ++ "\n")
  ++ "#define EWOULDBLOCK EAGAIN
  #define EILSEQ 84
  #define EOVERFLOW 75
  #define ENOTSUP 95
  #define ETIMEDOUT 110"

/-- Checks of conditions while a program runs, which can be turned off between two readings. -/
def assert : String :=
  "#undef assert
  #ifdef NDEBUG
  #define assert(e) ((void)0)
  #else
  #ifdef __cplusplus
  extern \"C\" void __assert_fail(const char*,const char*,unsigned,const char*);
  #define assert(e) (static_cast<bool>(e)?void(0):__assert_fail(#e,__FILE__,__LINE__,__PRETTY_FUNCTION__))
  #else
  void __assert_fail(const char*,const char*,unsigned,const char*);
  #define assert(e) ((e)?(void)0:__assert_fail(#e,__FILE__,__LINE__,__func__))
  #endif
  #endif
  #if !defined __cplusplus && __STDC_VERSION__ < 202311L
  #undef static_assert
  #define static_assert _Static_assert
  #endif"

/-- Services of the system. -/
def unistd : String := need ["size_t", "ssize_t", "off_t", "pid_t", "NULL", "intptr_t"] ++
  "#define STDIN_FILENO 0
  #define STDOUT_FILENO 1
  #define STDERR_FILENO 2
  #define R_OK 4
  #define W_OK 2
  #define X_OK 1
  #define F_OK 0
  #define _SC_PAGESIZE 30
  #define _SC_NPROCESSORS_ONLN 84
  ssize_t read(int,void*,size_t);ssize_t write(int,const void*,size_t);int close(int);
  off_t lseek(int,off_t,int);int access(const char*,int);int unlink(const char*);
  int rmdir(const char*);int chdir(const char*);char*getcwd(char*,size_t);
  unsigned sleep(unsigned);int usleep(unsigned);pid_t getpid(void);pid_t getppid(void);
  pid_t fork(void);void _exit(int)__attribute__((noreturn));int isatty(int);int dup(int);
  int dup2(int,int);int pipe(int*);long sysconf(int);int getpagesize(void);
  unsigned getuid(void);unsigned geteuid(void);unsigned getgid(void);unsigned getegid(void);
  int execv(const char*,char*const*);int execvp(const char*,char*const*);unsigned alarm(unsigned);
  int gethostname(char*,size_t);void swab(const void*,void*,ssize_t);"

/-- Jumps out of functions. -/
def setjmp : String :=
  "typedef long jmp_buf[8];typedef long sigjmp_buf[8];
  int _setjmp(long*);int __sigsetjmp(long*,int);
  void longjmp(long*,int)__attribute__((noreturn));
  void siglongjmp(long*,int)__attribute__((noreturn));
  #define setjmp(b) _setjmp(b)
  #define sigsetjmp(b,m) __sigsetjmp(b,m)"

/-- Objects that several threads use. -/
def stdatomic : String :=
  "typedef enum<%memory_order_relaxed,memory_order_consume,memory_order_acquire,
  memory_order_release,memory_order_acq_rel,memory_order_seq_cst%>memory_order;
  typedef _Bool atomic_bool;typedef char atomic_char;typedef int atomic_int;
  typedef unsigned atomic_uint;typedef long atomic_long;typedef unsigned long atomic_ulong;
  typedef long long atomic_llong;typedef unsigned long long atomic_ullong;
  typedef short atomic_short;typedef unsigned short atomic_ushort;
  typedef unsigned char atomic_uchar;typedef signed char atomic_schar;
  typedef unsigned long atomic_size_t;typedef long atomic_ptrdiff_t;
  typedef long atomic_intptr_t;typedef unsigned long atomic_uintptr_t;
  typedef struct<%unsigned char __v;%>atomic_flag;
  #define ATOMIC_FLAG_INIT <%0%>
  #define ATOMIC_VAR_INIT(v) (v)
  #define atomic_init(p,v) ((void)(*(p)=(v)))
  #define atomic_load(p) __atomic_load_n(p,5)
  #define atomic_load_explicit(p,m) __atomic_load_n(p,m)
  #define atomic_store(p,v) __atomic_store_n(p,v,5)
  #define atomic_store_explicit(p,v,m) __atomic_store_n(p,v,m)
  #define atomic_exchange(p,v) __atomic_exchange_n(p,v,5)
  #define atomic_exchange_explicit(p,v,m) __atomic_exchange_n(p,v,m)
  #define atomic_compare_exchange_strong(p,e,v) __atomic_compare_exchange_n(p,e,v,0,5,5)
  #define atomic_compare_exchange_weak(p,e,v) __atomic_compare_exchange_n(p,e,v,1,5,5)
  #define atomic_fetch_add(p,v) __atomic_fetch_add(p,v,5)
  #define atomic_fetch_sub(p,v) __atomic_fetch_sub(p,v,5)
  #define atomic_fetch_or(p,v) __atomic_fetch_or(p,v,5)
  #define atomic_fetch_and(p,v) __atomic_fetch_and(p,v,5)
  #define atomic_fetch_xor(p,v) __atomic_fetch_xor(p,v,5)
  #define atomic_fetch_add_explicit(p,v,m) __atomic_fetch_add(p,v,m)
  #define atomic_fetch_sub_explicit(p,v,m) __atomic_fetch_sub(p,v,m)
  #define atomic_flag_test_and_set(p) __atomic_test_and_set(&(p)->__v,5)
  #define atomic_flag_clear(p) __atomic_clear(&(p)->__v,5)
  #define atomic_thread_fence(m) __atomic_thread_fence(m)
  #define atomic_signal_fence(m) __atomic_signal_fence(m)
  #define atomic_is_lock_free(p) 1
  #define kill_dependency(v) (v)"

/-- Types of the system. -/
def systemTypes : String :=
  need ["size_t", "ssize_t", "off_t", "pid_t", "time_t", "clock_t", "bits_int"] ++
  "typedef unsigned uid_t;typedef unsigned gid_t;typedef unsigned mode_t;typedef unsigned long dev_t;
  typedef unsigned long ino_t;typedef unsigned long nlink_t;typedef unsigned char u_char;
  typedef unsigned short u_short;typedef unsigned u_int;typedef unsigned long u_long;
  typedef unsigned short ushort;typedef unsigned uint;typedef unsigned long ulong;
  typedef unsigned char u_int8_t;typedef unsigned short u_int16_t;typedef unsigned u_int32_t;
  typedef unsigned long u_int64_t;"

/-- Headers for C by their names. -/
def texts : List (String × String) :=
  Calendar.part.headers ++ Thread.part.headers ++ Wide.part.headers ++ Complex.part.headers ++ Vector.part.headers ++
  [("string.h", string), ("strings.h", string), ("memory.h", string), ("stdio.h", stdio),
    ("stdlib.h", stdlib), ("math.h", math), ("stdint.h", stdint), ("inttypes.h", inttypes),
    ("limits.h", limits), ("float.h", float), ("stddef.h", stddef), ("stdarg.h", stdarg),
    ("ctype.h", ctype), ("errno.h", errno), ("assert.h", assert),
    ("unistd.h", unistd), ("setjmp.h", setjmp), ("stdatomic.h", stdatomic),
    ("sys/types.h", systemTypes),
    ("malloc.h", "#include <stdlib.h>\nvoid*memalign(size_t,size_t);size_t malloc_usable_size(void*);"),
    ("alloca.h", "#define alloca(n) __builtin_alloca(n)"),
    ("stdbool.h", "#ifndef __cplusplus\n#define bool _Bool\n#define true 1\n#define false 0\n#endif
      #define __bool_true_false_are_defined 1"),
    ("stdalign.h", "#ifndef __cplusplus\n#define alignas _Alignas\n#define alignof _Alignof\n#endif
      #define __alignas_is_defined 1\n#define __alignof_is_defined 1"),
    ("stdnoreturn.h", "#ifndef __cplusplus\n#define noreturn _Noreturn\n#endif"),
    ("iso646.h", "#ifndef __cplusplus\n#define and &&\n#define and_eq &=\n#define bitand &
      #define bitor |\n#define compl ~\n#define not !\n#define not_eq !=\n#define or ||
      #define or_eq |=\n#define xor ^\n#define xor_eq ^=\n#endif"),
    ("locale.h", "#define LC_ALL 6\n#define LC_NUMERIC 1\n#define LC_CTYPE 0
      char*setlocale(int,const char*);"),
    ("uchar.h", need ["size_t"] ++ "#ifndef __cplusplus\ntypedef unsigned short char16_t;
      typedef unsigned char32_t;\n#endif"),
    ("features.h", "#define __GLIBC__ 2\n#define __GLIBC_MINOR__ 39")]

/-- The text of a header for C++ by its name. -/
def inPlus? (name : String) : Option String := do
  let text ← Plus.Failure.headers.lookup name
  return "#pragma once\n" ++ text

/-- The text of a header for C. A header other than the one for checks counts only once. -/
def inC? (name : String) : Option String := do
  let text ← texts.lookup name
  if name = "assert.h" then return text
  else
    let mark := "__header_" ++ String.ofList (name.toList.map fun char =>
      if char = '.' ∨ char = '/' then '_' else char)
    return "#ifndef " ++ mark ++ "\n#define " ++ mark ++ "\n#ifdef __cplusplus\nextern \"C\" <%\n#endif\n"
      ++ text ++ "\n#ifdef __cplusplus\n%>\n#endif\n#endif\n"

/-- The text of a header by its name; some headers are for C++ only. -/
def text? (isPlus : Bool) (name : String) : Option String :=
  (inC? name).or (if isPlus then inPlus? name else none)

end KernelCache.Standard.Header
