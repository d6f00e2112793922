import KernelCache.Standard.Declaration

/-
**Threads and signals.**

A thread runs from its start to its end when it is made, so locks are always free, and what a thread
yields is there when somebody waits for it. A signal that a program raises reaches its handler at once.
-/

namespace KernelCache.Standard.Thread

open Header (need)

/-- Types and values of signals. -/
def signals : String := need ["pid_t", "size_t"] ++
  "typedef int sig_atomic_t;typedef void(*__sighandler_t)(int);typedef __sighandler_t sighandler_t;
  #define SIG_DFL ((__sighandler_t)0)
  #define SIG_IGN ((__sighandler_t)1)
  #define SIG_ERR ((__sighandler_t)-1)
  #define SIGHUP 1
  #define SIGINT 2
  #define SIGQUIT 3
  #define SIGILL 4
  #define SIGTRAP 5
  #define SIGABRT 6
  #define SIGBUS 7
  #define SIGFPE 8
  #define SIGKILL 9
  #define SIGUSR1 10
  #define SIGSEGV 11
  #define SIGUSR2 12
  #define SIGPIPE 13
  #define SIGALRM 14
  #define SIGTERM 15
  #define SIGCHLD 17
  #define SIGCONT 18
  #define SIGSTOP 19
  #define SIGTSTP 20
  #define SIGWINCH 28
  #define NSIG 65
  #define SA_NOCLDSTOP 1
  #define SA_SIGINFO 4
  #define SA_RESTART 0x10000000
  #define SA_NODEFER 0x40000000
  #define SA_RESETHAND 0x80000000
  #define SIG_BLOCK 0
  #define SIG_UNBLOCK 1
  #define SIG_SETMASK 2
  typedef struct<%unsigned long __v[16];%>sigset_t;
  typedef struct<%int si_signo,si_errno,si_code;long __v[14];%>siginfo_t;
  struct sigaction<%union<%__sighandler_t sa_handler;void(*sa_sigaction)(int,siginfo_t*,void*);%>
  __handler;sigset_t sa_mask;int sa_flags;void(*sa_restorer)(void);%>;
  #define sa_handler __handler.sa_handler
  #define sa_sigaction __handler.sa_sigaction
  __sighandler_t signal(int,__sighandler_t);int raise(int);int kill(pid_t,int);
  int sigaction(int,const struct sigaction*,struct sigaction*);int sigemptyset(sigset_t*);
  int sigfillset(sigset_t*);int sigaddset(sigset_t*,int);int sigdelset(sigset_t*,int);
  int sigismember(const sigset_t*,int);int sigprocmask(int,const sigset_t*,sigset_t*);"

/-- Types and functions of threads. -/
def threads : String := need ["size_t", "time_t", "timespec"] ++
  "typedef unsigned long pthread_t;typedef struct<%long __v[7];%>pthread_attr_t;
  typedef struct<%long __v[5];%>pthread_mutex_t;typedef struct<%int __v;%>pthread_mutexattr_t;
  typedef struct<%long __v[6];%>pthread_cond_t;typedef struct<%int __v;%>pthread_condattr_t;
  typedef struct<%long __v[7];%>pthread_rwlock_t;typedef struct<%long __v;%>pthread_rwlockattr_t;
  typedef struct<%long __v[4];%>pthread_barrier_t;typedef struct<%int __v;%>pthread_barrierattr_t;
  typedef int pthread_once_t;typedef unsigned pthread_key_t;typedef volatile int pthread_spinlock_t;
  #define PTHREAD_MUTEX_INITIALIZER <%<%0%>%>
  #define PTHREAD_COND_INITIALIZER <%<%0%>%>
  #define PTHREAD_RWLOCK_INITIALIZER <%<%0%>%>
  #define PTHREAD_ONCE_INIT 0
  #define PTHREAD_CREATE_JOINABLE 0
  #define PTHREAD_CREATE_DETACHED 1
  #define PTHREAD_MUTEX_NORMAL 0
  #define PTHREAD_MUTEX_RECURSIVE 1
  #define PTHREAD_MUTEX_ERRORCHECK 2
  #define PTHREAD_MUTEX_DEFAULT 0
  #define PTHREAD_BARRIER_SERIAL_THREAD (-1)
  int pthread_create(pthread_t*,const pthread_attr_t*,void*(*)(void*),void*);
  int pthread_join(pthread_t,void**);int pthread_detach(pthread_t);pthread_t pthread_self(void);
  int pthread_equal(pthread_t,pthread_t);void pthread_exit(void*)__attribute__((noreturn));
  int pthread_once(pthread_once_t*,void(*)(void));int pthread_key_create(pthread_key_t*,void(*)(void*));
  int pthread_key_delete(pthread_key_t);void*pthread_getspecific(pthread_key_t);
  int pthread_setspecific(pthread_key_t,const void*);
  int pthread_attr_init(pthread_attr_t*);int pthread_attr_destroy(pthread_attr_t*);
  int pthread_attr_setdetachstate(pthread_attr_t*,int);
  int pthread_attr_setstacksize(pthread_attr_t*,size_t);
  int pthread_mutex_init(pthread_mutex_t*,const pthread_mutexattr_t*);
  int pthread_mutex_destroy(pthread_mutex_t*);int pthread_mutex_lock(pthread_mutex_t*);
  int pthread_mutex_trylock(pthread_mutex_t*);int pthread_mutex_unlock(pthread_mutex_t*);
  int pthread_mutexattr_init(pthread_mutexattr_t*);int pthread_mutexattr_destroy(pthread_mutexattr_t*);
  int pthread_mutexattr_settype(pthread_mutexattr_t*,int);
  int pthread_cond_init(pthread_cond_t*,const pthread_condattr_t*);
  int pthread_cond_destroy(pthread_cond_t*);int pthread_cond_signal(pthread_cond_t*);
  int pthread_cond_broadcast(pthread_cond_t*);int pthread_cond_wait(pthread_cond_t*,pthread_mutex_t*);
  int pthread_rwlock_init(pthread_rwlock_t*,const pthread_rwlockattr_t*);
  int pthread_rwlock_destroy(pthread_rwlock_t*);int pthread_rwlock_rdlock(pthread_rwlock_t*);
  int pthread_rwlock_wrlock(pthread_rwlock_t*);int pthread_rwlock_unlock(pthread_rwlock_t*);
  int pthread_spin_init(pthread_spinlock_t*,int);int pthread_spin_destroy(pthread_spinlock_t*);
  int pthread_spin_lock(pthread_spinlock_t*);int pthread_spin_unlock(pthread_spinlock_t*);
  int pthread_barrier_init(pthread_barrier_t*,const pthread_barrierattr_t*,unsigned);
  int pthread_barrier_destroy(pthread_barrier_t*);int pthread_barrier_wait(pthread_barrier_t*);"

/-- Threads as the standard of the language has them. -/
def standardThreads : String := need ["time_t", "timespec"] ++
  "#define thread_local _Thread_local
  #define ONCE_FLAG_INIT 0
  typedef unsigned long thrd_t;typedef int(*thrd_start_t)(void*);typedef unsigned tss_t;
  typedef int once_flag;typedef struct<%long __v[5];%>mtx_t;typedef struct<%long __v[6];%>cnd_t;
  enum<%thrd_success,thrd_busy,thrd_error,thrd_nomem,thrd_timedout%>;
  enum<%mtx_plain,mtx_recursive,mtx_timed%>;
  int thrd_create(thrd_t*,thrd_start_t,void*);int thrd_join(thrd_t,int*);thrd_t thrd_current(void);
  int thrd_equal(thrd_t,thrd_t);int thrd_detach(thrd_t);void thrd_yield(void);
  int mtx_init(mtx_t*,int);int mtx_lock(mtx_t*);int mtx_trylock(mtx_t*);int mtx_unlock(mtx_t*);
  void mtx_destroy(mtx_t*);int cnd_init(cnd_t*);int cnd_signal(cnd_t*);int cnd_broadcast(cnd_t*);
  int cnd_wait(cnd_t*,mtx_t*);void cnd_destroy(cnd_t*);void call_once(once_flag*,void(*)(void));"

/-- Counters that threads wait for. -/
def semaphores : String :=
  "typedef struct<%long __v[4];%>sem_t;int sem_init(sem_t*,int,unsigned);int sem_wait(sem_t*);
  int sem_trywait(sem_t*);int sem_post(sem_t*);int sem_getvalue(sem_t*,int*);int sem_destroy(sem_t*);"

/-- Functions that do nothing and succeed. -/
def idle : List String :=
  ["pthread_detach", "pthread_attr_init", "pthread_attr_destroy", "pthread_attr_setdetachstate",
    "pthread_attr_setstacksize", "pthread_mutex_init", "pthread_mutex_destroy",
    "pthread_mutex_lock", "pthread_mutex_trylock", "pthread_mutex_unlock",
    "pthread_mutexattr_init", "pthread_mutexattr_destroy", "pthread_mutexattr_settype",
    "pthread_cond_init", "pthread_cond_destroy", "pthread_cond_signal", "pthread_cond_broadcast",
    "pthread_cond_wait", "pthread_rwlock_init", "pthread_rwlock_destroy", "pthread_rwlock_rdlock",
    "pthread_rwlock_wrlock", "pthread_rwlock_unlock", "pthread_spin_init", "pthread_spin_destroy",
    "pthread_spin_lock", "pthread_spin_unlock", "pthread_barrier_init", "pthread_barrier_destroy",
    "pthread_key_delete", "thrd_detach", "thrd_yield", "mtx_init", "mtx_lock", "mtx_trylock",
    "mtx_unlock", "mtx_destroy", "cnd_init", "cnd_signal", "cnd_broadcast", "cnd_wait", "cnd_destroy",
    "sem_destroy", "sigprocmask"]

/-- Functions of threads and signals. -/
def sources : List Source :=
  [(["pthread_create", "pthread_join", "pthread_self", "pthread_equal", "pthread_exit", "thrd_create",
        "thrd_join", "thrd_current", "thrd_equal"],
      "typedef unsigned long P;typedef long J[8];int _setjmp(long*);void longjmp(long*,int);
      void exit(int);static void*r[256];static J*b;static P n=1,c=1;
      P pthread_self(void)<%return c;%>int pthread_equal(P a,P d)<%return a==d;%>
      void pthread_exit(void*v)<%if(!b)exit(0);r[c%256]=v;longjmp(*b,1);%>
      static void*run(P*t,void*(*f)(void*),int(*g)(void*),void*x)<%J j,*o=b;P k=c;
      *t=c=++n;b=&j;if(!_setjmp(j))r[c%256]=g?(void*)(long)g(x):f(x);b=o;c=k;return 0;%>
      int pthread_create(P*t,const void*a,void*(*f)(void*),void*x)<%run(t,f,0,x);return 0;%>
      int pthread_join(P t,void**v)<%if(v)*v=r[t%256];return 0;%>
      int thrd_create(P*t,int(*f)(void*),void*x)<%run(t,0,f,x);return 0;%>
      int thrd_join(P t,int*v)<%if(v)*v=(long)r[t%256];return 0;%>
      P thrd_current(void)<%return c;%>int thrd_equal(P a,P d)<%return a==d;%>"),
    (["pthread_once", "call_once"], "int pthread_once(int*o,void(*f)(void))<%
      if(!*o)<%*o=1;f();%>return 0;%>void call_once(int*o,void(*f)(void))<%pthread_once(o,f);%>"),
    (["pthread_key_create", "pthread_getspecific", "pthread_setspecific"],
      "static const void*v[1024];static unsigned n;
      int pthread_key_create(unsigned*k,void(*f)(void*))<%*k=n++;return 0;%>
      void*pthread_getspecific(unsigned k)<%return(void*)v[k];%>
      int pthread_setspecific(unsigned k,const void*p)<%v[k]=p;return 0;%>"),
    (["pthread_barrier_wait"], "int pthread_barrier_wait(void*b)<%return-1;%>"),
    (["sem_init", "sem_wait", "sem_trywait", "sem_post", "sem_getvalue"],
      "int*__errno_location(void);int sem_init(int*s,int p,unsigned v)<%*s=v;return 0;%>
      int sem_wait(int*s)<%if(*s)--*s;return 0;%>
      int sem_trywait(int*s)<%if(*s)<%--*s;return 0;%>*__errno_location()=11;return-1;%>
      int sem_post(int*s)<%++*s;return 0;%>int sem_getvalue(int*s,int*v)<%*v=*s;return 0;%>"),
    (["sigemptyset", "sigfillset", "sigaddset", "sigdelset", "sigismember"],
      "typedef unsigned long U;int sigemptyset(U*s)<%memset(s,0,128);return 0;%>
      int sigfillset(U*s)<%memset(s,255,128);return 0;%>
      int sigaddset(U*s,int n)<%*s|=1ul<<(n-1);return 0;%>
      int sigdelset(U*s,int n)<%*s&=~(1ul<<(n-1));return 0;%>
      int sigismember(const U*s,int n)<%return *s>>(n-1)&1;%>"),
    (["signal", "raise", "kill", "sigaction"], "typedef void(*H)(int);int*__errno_location(void);
      typedef struct<%H h;long m[16];int f;void*r;%>A;static A a[65];int __raise(int);
      static int bad(int n)<%if(n>0&&n<65&&n!=9&&n!=19)return 0;*__errno_location()=22;return 1;%>
      H signal(int n,H f)<%if(bad(n))return(H)-1;H o=a[n].h;a[n].h=f;a[n].f=0;return o;%>
      int raise(int n)<%H h;if(n<0||n>64)<%*__errno_location()=22;return-1;%>h=a[n].h;
      if(h==(H)1||!n)return 0;if(!h)return __raise(n);
      if(a[n].f&0x80000000)a[n].h=0;
      if(a[n].f&4)<%int s[32]=<%n%>;((void(*)(int,void*,void*))h)(n,s,0);%>else h(n);return 0;%>
      int kill(int p,int n)<%return raise(n);%>
      int sigaction(int n,const A*s,A*o)<%if(bad(n))return-1;if(o)*o=a[n];if(s)a[n]=*s;return 0;%>"),
    (["sleep", "usleep", "nanosleep", "sched_yield"], "unsigned sleep(unsigned n)<%return 0;%>
      int usleep(unsigned n)<%return 0;%>int nanosleep(void*a,void*b)<%return 0;%>
      int sched_yield(void)<%return 0;%>"),
    (["getpid", "getppid", "gettid"], "int getpid(void)<%return 4242;%>int getppid(void)<%return 4241;%>
      int gettid(void)<%return 4242;%>")]
  ++ idle.map fun name => ([name], "int " ++ name ++ "()<%return 0;%>")

/-- Threads and signals. -/
def part : Part where
  headers := [("signal.h", signals), ("pthread.h", threads), ("threads.h", standardThreads),
    ("semaphore.h", semaphores), ("sched.h", "int sched_yield(void);")]
  sources := sources

end KernelCache.Standard.Thread
