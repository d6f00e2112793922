import KernelCache.C.Reading
import KernelCache.Utility.CompilerOption

/-
**What a command line asks the compiler driver for.**

`Order.read?` reads a command line; it fails at what the driver has never heard of.
-/

/-! ## Macros that sources find without defining them

`Predefined.text` defines them by directives.
-/

namespace KernelCache.Compiler.Predefined

/-- What the code is made for, besides the language. -/
structure Target where
  /-- The number of the level at which the compiler tries to make the code faster, or nothing. -/
  isOptimized : Bool := false
  isSmall : Bool := false
  isFast : Bool := false
  /-- The level of code that works at any place in memory: of a library, and of a program. -/
  library : Nat := 0
  program : Nat := 2
  threads : Bool := false
  parallel : Bool := false
  /-- Whether only the language itself is there. -/
  isFree : Bool := false
  /-- Parts of the machine. -/
  extensions : List String := []
  deriving Repr

/-- Macros of every source. -/
def everywhere : String :=
  "_LP64 1;_STDC_PREDEF_H 1;__DATE__ \"Jan  1 2025\";__TIME__ \"00:00:00\";
  __TIMESTAMP__ \"Wed Jan  1 00:00:00 2025\";__ATOMIC_ACQUIRE 2;__ATOMIC_ACQ_REL 4;__ATOMIC_CONSUME 1;
  __ATOMIC_RELAXED 0;__ATOMIC_RELEASE 3;__ATOMIC_SEQ_CST 5;__BIGGEST_ALIGNMENT__ 16;
  __BYTE_ORDER__ 1234;__CET__ 3;__CHAR16_TYPE__ short unsigned int;__CHAR32_TYPE__ unsigned int;
  __CHAR_BIT__ 8;__DBL_DECIMAL_DIG__ 17;__DBL_DIG__ 15;
  __DBL_EPSILON__ ((double)2.22044604925031308084726333618164062e-16L);
  __DBL_MAX__ ((double)1.79769313486231570814527423731704357e+308L);
  __DBL_MIN__ ((double)2.22507385850720138309023271733240406e-308L);
  __DBL_DENORM_MIN__ ((double)4.94065645841246544176568792868221372e-324L);
  __DBL_MANT_DIG__ 53;__DBL_MAX_10_EXP__ 308;__DBL_MAX_EXP__ 1024;__DBL_MIN_10_EXP__ (-307);
  __DBL_MIN_EXP__ (-1021);__DECIMAL_DIG__ 21;__ELF__ 1;__FINITE_MATH_ONLY__ 0;
  __FLOAT_WORD_ORDER__ 1234;__FLT_DECIMAL_DIG__ 9;__FLT_DIG__ 6;
  __FLT_EPSILON__ 1.19209289550781250000000000000000000e-7F;__FLT_EVAL_METHOD__ 0;
  __FLT_MANT_DIG__ 24;__FLT_MAX_10_EXP__ 38;__FLT_MAX_EXP__ 128;
  __FLT_MAX__ 3.40282346638528859811704183484516925e+38F;
  __FLT_MIN__ 1.17549435082228750796873653722224568e-38F;__FLT_MIN_10_EXP__ (-37);
  __FLT_MIN_EXP__ (-125);__FLT_RADIX__ 2;__LDBL_DIG__ 18;__LDBL_MANT_DIG__ 64;
  __LDBL_MAX_10_EXP__ 4932;__LDBL_MAX_EXP__ 16384;__LDBL_MIN_10_EXP__ (-4931);
  __LDBL_MIN_EXP__ (-16381);__FXSR__ 1;
  __GCC_ATOMIC_BOOL_LOCK_FREE 2;__GCC_ATOMIC_CHAR_LOCK_FREE 2;__GCC_ATOMIC_INT_LOCK_FREE 2;
  __GCC_ATOMIC_LONG_LOCK_FREE 2;__GCC_ATOMIC_LLONG_LOCK_FREE 2;__GCC_ATOMIC_POINTER_LOCK_FREE 2;
  __GCC_ATOMIC_SHORT_LOCK_FREE 2;__GCC_ATOMIC_TEST_AND_SET_TRUEVAL 1;
  __GCC_HAVE_SYNC_COMPARE_AND_SWAP_1 1;__GCC_HAVE_SYNC_COMPARE_AND_SWAP_2 1;
  __GCC_HAVE_SYNC_COMPARE_AND_SWAP_4 1;__GCC_HAVE_SYNC_COMPARE_AND_SWAP_8 1;
  __GCC_IEC_559 2;__GNUC_MINOR__ 3;__GNUC_PATCHLEVEL__ 0;__GNUC_STDC_INLINE__ 1;__GNUC__ 13;
  __GXX_ABI_VERSION 1018;__INT16_C(c) c;__INT16_MAX__ 0x7fff;__INT16_TYPE__ short int;
  __INT32_C(c) c;__INT32_MAX__ 0x7fffffff;__INT32_TYPE__ int;__INT64_C(c) c ## L;
  __INT64_MAX__ 0x7fffffffffffffffL;__INT64_TYPE__ long int;__INT8_C(c) c;__INT8_MAX__ 0x7f;
  __INT8_TYPE__ signed char;__INTMAX_C(c) c ## L;__INTMAX_MAX__ 0x7fffffffffffffffL;
  __INTMAX_TYPE__ long int;__INTMAX_WIDTH__ 64;__INTPTR_MAX__ 0x7fffffffffffffffL;
  __INTPTR_TYPE__ long int;__INTPTR_WIDTH__ 64;__INT_MAX__ 0x7fffffff;__INT_WIDTH__ 32;
  __LONG_LONG_MAX__ 0x7fffffffffffffffLL;__LONG_LONG_WIDTH__ 64;
  __LONG_MAX__ 0x7fffffffffffffffL;__LONG_WIDTH__ 64;__LP64__ 1;__MMX__ 1;
  __ORDER_BIG_ENDIAN__ 4321;__ORDER_LITTLE_ENDIAN__ 1234;__ORDER_PDP_ENDIAN__ 3412;
  __PRAGMA_REDEFINE_EXTNAME 1;__PTRDIFF_MAX__ 0x7fffffffffffffffL;__PTRDIFF_TYPE__ long int;
  __PTRDIFF_WIDTH__ 64;__REGISTER_PREFIX__ ;__SCHAR_MAX__ 0x7f;__SCHAR_WIDTH__ 8;
  __SHRT_MAX__ 0x7fff;__SHRT_WIDTH__ 16;__SIG_ATOMIC_MAX__ 0x7fffffff;
  __SIG_ATOMIC_MIN__ (-__SIG_ATOMIC_MAX__ - 1);__SIG_ATOMIC_TYPE__ int;__SIG_ATOMIC_WIDTH__ 32;
  __SIZEOF_DOUBLE__ 8;__SIZEOF_FLOAT128__ 16;__SIZEOF_FLOAT80__ 16;__SIZEOF_FLOAT__ 4;
  __SIZEOF_INT128__ 16;__SIZEOF_INT__ 4;__SIZEOF_LONG_DOUBLE__ 16;__SIZEOF_LONG_LONG__ 8;
  __SIZEOF_LONG__ 8;__SIZEOF_POINTER__ 8;__SIZEOF_PTRDIFF_T__ 8;__SIZEOF_SHORT__ 2;
  __SIZEOF_SIZE_T__ 8;__SIZEOF_WCHAR_T__ 4;__SIZEOF_WINT_T__ 4;
  __SIZE_MAX__ 0xffffffffffffffffUL;__SIZE_TYPE__ long unsigned int;__SIZE_WIDTH__ 64;
  __SSE2_MATH__ 1;__SSE2__ 1;__SSE_MATH__ 1;__SSE__ 1;__SSP_STRONG__ 3;__STDC_IEC_559__ 1;
  __STDC_IEC_559_COMPLEX__ 1;__STDC_ISO_10646__ 201706L;__STDC_UTF_16__ 1;__STDC_UTF_32__ 1;
  __STDC__ 1;__UINT16_C(c) c;__UINT16_MAX__ 0xffff;__UINT16_TYPE__ short unsigned int;
  __UINT32_C(c) c ## U;__UINT32_MAX__ 0xffffffffU;__UINT32_TYPE__ unsigned int;
  __UINT64_C(c) c ## UL;__UINT64_MAX__ 0xffffffffffffffffUL;__UINT64_TYPE__ long unsigned int;
  __UINT8_C(c) c;__UINT8_MAX__ 0xff;__UINT8_TYPE__ unsigned char;__UINTMAX_C(c) c ## UL;
  __UINTMAX_MAX__ 0xffffffffffffffffUL;__UINTMAX_TYPE__ long unsigned int;
  __UINTPTR_MAX__ 0xffffffffffffffffUL;__UINTPTR_TYPE__ long unsigned int;
  __USER_LABEL_PREFIX__ ;__VERSION__ \"13.3.0\";__WCHAR_MAX__ 0x7fffffff;
  __WCHAR_MIN__ (-__WCHAR_MAX__ - 1);__WCHAR_TYPE__ int;__WCHAR_WIDTH__ 32;
  __WINT_MAX__ 0xffffffffU;__WINT_MIN__ 0U;__WINT_TYPE__ unsigned int;__WINT_WIDTH__ 32;
  __amd64 1;__amd64__ 1;__code_model_small__ 1;__gnu_linux__ 1;__k8 1;__k8__ 1;__linux 1;
  __linux__ 1;__unix 1;__unix__ 1;__x86_64 1;__x86_64__ 1"

/-- Macros that tell the features of C++ by the year of the standard that brings them. -/
def features : List (Nat × String) :=
  [(1998, "rtti 199711L;exceptions 199711L;runtime_arrays 198712L"),
    (2011, "unicode_characters 200704L;raw_strings 200710L;unicode_literals 200710L;
      user_defined_literals 200809L;lambdas 200907L;range_based_for 200907L;static_assert 200410L;
      decltype 200707L;attributes 200809L;rvalue_reference 200610L;rvalue_references 200610L;
      variadic_templates 200704L;initializer_lists 200806L;delegating_constructors 200604L;
      nsdmi 200809L;inheriting_constructors 201511L;ref_qualifiers 200710L;alias_templates 200704L;
      threadsafe_static_init 200806L;constexpr 200704L"),
    (2014, "return_type_deduction 201304L;binary_literals 201304L;init_captures 201304L;
      generic_lambdas 201304L;decltype_auto 201304L;aggregate_nsdmi 201304L;
      variable_templates 201304L;digit_separators 201309L;sized_deallocation 201309L;
      constexpr 201304L"),
    (2017, "unicode_characters 201411L;static_assert 201411L;range_based_for 201603L;
      namespace_attributes 201411L;enumerator_attributes 201411L;
      nested_namespace_definitions 201411L;fold_expressions 201603L;
      nontype_template_args 201411L;if_constexpr 201606L;capture_star_this 201603L;
      inline_variables 201606L;aggregate_bases 201603L;deduction_guides 201703L;
      noexcept_function_type 201510L;template_auto 201606L;structured_bindings 201606L;
      variadic_using 201611L;guaranteed_copy_elision 201606L;
      nontype_template_parameter_auto 201606L;aligned_new 201606L;hex_float 201603L;
      template_template_args 201611L;constexpr 201603L"),
    (2020, "concepts 202002L;generic_lambdas 201707L;designated_initializers 201707L;
      constinit 201907L;consteval 201811L;impl_three_way_comparison 201907L;
      conditional_explicit 201806L;char8_t 202207L;using_enum 201907L;
      aggregate_paren_init 201902L;init_captures 201803L;constexpr 202002L")]

/-- The value that tells the standard of C, when one does. -/
def versionOfC? (year : Nat) : Option String :=
  if year < 1995 then none
  else if year < 1999 then some "199409L"
  else if year < 2011 then some "199901L"
  else if year < 2017 then some "201112L"
  else if year < 2023 then some "201710L"
  else some "202000L"

/-- The value that tells the standard of C++. -/
def versionOfPlus (year : Nat) : String :=
  if year < 2011 then "199711L"
  else if year < 2014 then "201103L"
  else if year < 2017 then "201402L"
  else if year < 2020 then "201703L"
  else if year < 2023 then "202002L"
  else "202100L"

/-- Macros that parts of the machine bring along, with those parts that they contain. -/
def machineParts : List (String × List String) :=
  [("sse3", ["SSE3"]), ("ssse3", ["SSE3", "SSSE3"]),
    ("sse4.1", ["SSE3", "SSSE3", "SSE4_1"]),
    ("sse4.2", ["SSE3", "SSSE3", "SSE4_1", "SSE4_2", "CRC32", "POPCNT"]),
    ("avx", ["SSE3", "SSSE3", "SSE4_1", "SSE4_2", "CRC32", "POPCNT", "AVX", "XSAVE"]),
    ("avx2", ["SSE3", "SSSE3", "SSE4_1", "SSE4_2", "CRC32", "POPCNT", "AVX", "XSAVE", "AVX2"]),
    ("fma", ["SSE3", "SSSE3", "SSE4_1", "SSE4_2", "CRC32", "POPCNT", "AVX", "XSAVE", "FMA"]),
    ("popcnt", ["POPCNT"]), ("bmi", ["BMI"]), ("bmi2", ["BMI2"]), ("lzcnt", ["LZCNT"])]

/-- The items between semicolons. -/
def itemsIn (text : String) : List String :=
  ((text.splitOn ";").map fun item => (item.trimAscii).toString).filter (· != "")

/-- The directives that define the macros of a source. -/
def text (options : C.Options) (target : Target) : List Char :=
  let plus := options.isPlus
  let when (condition : Bool) (items : List String) : List String :=
    if condition then items else []
  let ofLanguage := if plus then
      [s!"__cplusplus {versionOfPlus options.year}", "_GNU_SOURCE 1", "__GNUG__ 13",
        "__GXX_WEAK__ 1", "__STDCPP_THREADS__ 1", "__STDCPP_DEFAULT_NEW_ALIGNMENT__ 16"]
        ++ when (2011 ≤ options.year) ["__GXX_EXPERIMENTAL_CXX0X__ 1"]
        ++ when (!options.noExceptions) ["__EXCEPTIONS 1"] ++ when (!options.noTypes) ["__GXX_RTTI 1"]
        ++ (features.filter fun entry => entry.1 ≤ options.year).flatMap fun entry =>
          (itemsIn entry.2).map ("__cpp_" ++ ·)
    else (versionOfC? options.year).toList.map ("__STDC_VERSION__ " ++ ·)
  let ofTarget :=
    (if target.isOptimized then ["__OPTIMIZE__ 1"] else ["__NO_INLINE__ 1"])
      ++ when target.isSmall ["__OPTIMIZE_SIZE__ 1"] ++ when target.isFast ["__FAST_MATH__ 1"]
      ++ when (target.library != 0 || target.program != 0)
        [s!"__PIC__ {max target.library target.program}",
          s!"__pic__ {max target.library target.program}"]
      ++ when (target.library = 0 && target.program != 0)
        [s!"__PIE__ {target.program}", s!"__pie__ {target.program}"]
      ++ when target.threads ["_REENTRANT 1"] ++ when target.parallel ["_OPENMP 201511"]
      ++ [if target.isFree then "__STDC_HOSTED__ 0" else "__STDC_HOSTED__ 1"]
      ++ ((target.extensions.flatMap fun name => (machineParts.lookup name).getD []).eraseDups.map
        fun name => "__" ++ name ++ "__ 1")
  let ofOptions := when options.unsignedChar ["__CHAR_UNSIGNED__ 1"]
    ++ (if options.isStrict then ["__STRICT_ANSI__ 1"] else ["linux 1", "unix 1"])
  let defined := (itemsIn everywhere ++ ofLanguage ++ ofTarget ++ ofOptions).flatMap fun item =>
    ("#define " ++ item ++ "\n").toList
  if options.dialect = .assembly then defined ++ "#define __ASSEMBLER__ 1\n".toList else defined

end KernelCache.Compiler.Predefined

/-! ## What a command line asks the compiler driver for -/

namespace KernelCache.Compiler

/-- An input of the driver: a file, or a library by its name. -/
structure Input where
  path : List Char
  /-- The language that the command line names. -/
  language : Option String := none
  /-- Whether an archive is linked whole. -/
  whole : Bool := false
  isLibrary : Bool := false
  /-- Whether a library is left out when nothing in front of it needs it. -/
  asNeeded : Bool := true

/-- How far the driver goes. -/
inductive Goal where
  /-- Programs and libraries. -/
  | image
  | object
  | assembly
  /-- Sources are only read. -/
  | check
  /-- Sources without directives and macros. -/
  | text
  /-- The files that objects depend on. -/
  | rules
  deriving DecidableEq, Repr

/-- How much there is still to do behind a goal. -/
def Goal.rank : Goal → Nat
  | .rules => 0
  | .text => 1
  | .check => 2
  | .assembly => 3
  | .object => 4
  | .image => 5

/-- Rules that are written beside other outputs. -/
structure Rules where
  isWritten : Bool := false
  /-- Whether files of the system are left out. -/
  ownOnly : Bool := false
  output : Option (List Char) := none
  targets : List (List Char) := []
  /-- Whether every file is a target, too. -/
  hasPhonies : Bool := false

/-- What a command line asks for. -/
structure Order where
  goal : Goal := .image
  output : Option (List Char) := none
  shared : Bool := false
  /-- Whether a program can lie at any address. -/
  isMovable : Bool := true
  piped : Bool := false
  verbose : Bool := false
  /-- Whether sources without directives are printed without their lines. -/
  isBare : Bool := false
  /-- What is printed in place of all else. -/
  answer : Option String := none
  standard : Option String := none
  /-- Choices about the language, whatever the language is. -/
  options : C.Options := {}
  target : Predefined.Target := {}
  /-- Words about warnings, in their order. -/
  warnings : List String := []
  /-- Directives in front of every source. -/
  directives : List Char := []
  /-- Files whose macros count in every source. -/
  macroFiles : List (List Char) := []
  /-- Files that are included in front of every source. -/
  headers : List (List Char) := []
  /-- Directories of files whose names stand in quotes. -/
  quoteDirs : List (List Char) := []
  includeDirs : List (List Char) := []
  systemDirs : List (List Char) := []
  laterDirs : List (List Char) := []
  /-- Whether headers of the system are there. -/
  hasHeaders : Bool := true
  /-- Whether macros of the system are there. -/
  hasMacros : Bool := true
  rules : Rules := {}
  language : Option String := none
  whole : Bool := false
  asNeeded : Bool := true
  /-- Whether the next word for the linker is a value. -/
  awaiting : Bool := false
  /-- Whether a library must not need more than it brings along. -/
  isComplete : Bool := false
  /-- Whether symbols may be defined twice. -/
  allowsDoubles : Bool := false
  /-- Whether the libraries of the system are there. -/
  hasLibraries : Bool := true
  /-- Whether a program starts in the main function. -/
  hasStart : Bool := true
  libraryDirs : List (List Char) := []
  inputs : List Input := []

namespace Order

/-- Goes no further than to a goal. -/
def upTo (order : Order) (goal : Goal) : Order :=
  if goal.rank < order.goal.rank then { order with goal } else order

/-- Notes a word about warnings. -/
def noting (order : Order) (word : String) : Order :=
  { order with warnings := order.warnings ++ [word] }

/-- Adds an input. -/
def adding (order : Order) (path : List Char) (isLibrary : Bool) : Order :=
  let input : Input :=
    { path, language := order.language, whole := order.whole, isLibrary
      asNeeded := order.asNeeded }
  { order with inputs := order.inputs ++ [input] }

/-- Languages that can be named. -/
def languages : List String :=
  ["c", "c++", "none", "c-header", "c++-header", "assembler", "assembler-with-cpp", "cpp-output",
    "c++-cpp-output"]

/-- The directive for a macro that the command line defines. -/
def definition (text : List Char) : List Char :=
  let name := text.takeWhile (· != '=')
  let body := match text.drop name.length with
    | [] => ['1']
    | _ :: body => body.takeWhile (· != '\n')
  "#define ".toList ++ name ++ [' '] ++ body ++ ['\n']

/-! ### Words for the linker -/

/-- Obeys one word for the linker; fails when it is unknown. -/
def linkerWord? (order : Order) (word : List Char) : Option Order :=
  if order.awaiting then
    some { order with
      awaiting := false, isComplete := order.isComplete || word == "defs".toList
      allowsDoubles := order.allowsDoubles || word == "muldefs".toList }
  else if word.head? ≠ some '-' then some (order.adding word false)
  else
    match String.ofList word with
    | "--whole-archive" => some { order with whole := true }
    | "--no-whole-archive" | "-no-whole-archive" => some { order with whole := false }
    | "--as-needed" => some { order with asNeeded := true }
    | "--no-as-needed" => some { order with asNeeded := false }
    | "--no-undefined" | "-zdefs" => some { order with isComplete := true }
    | "--allow-multiple-definition" | "-zmuldefs" => some { order with allowsDoubles := true }
    | "-shared" | "--shared" | "-Bshareable" => some { order with shared := true }
    | option =>
      if CompilerOption.valuedLinker.contains option then some { order with awaiting := true }
      else
        match CompilerOption.behind? "-l" word, CompilerOption.behind? "-L" word with
        | some name, _ => some (order.adding name.toList true)
        | none, some dir => some { order with libraryDirs := order.libraryDirs ++ [dir.toList] }
        | none, none => if CompilerOption.isLinker option then some order else none

/-- Obeys words for the linker with commas between them. -/
def linkerWords? (order : Order) (text : List Char) : Option Order :=
  (text.splitOn ',').foldlM linkerWord? order

/-! ### Options -/

/-- Obeys an option about the files that objects depend on, with its value. -/
def ruleOption (order : Order) (option : String) (value : List Char) : Order :=
  let rules := order.rules
  match option with
  | "-MF" => { order with rules := { rules with output := some value } }
  | _ => { order with rules := { rules with targets := rules.targets ++ [value] } }

/-- Obeys an option with a value; fails when the value is none for it. -/
def valued? (order : Order) (option : String) (value : List Char) : Option Order :=
  match option with
  | "-o" => some { order with output := some value }
  | "-x" =>
    let language := String.ofList value
    if language = "none" then some { order with language := none }
    else if languages.contains language then some { order with language := some language }
    else none
  | "-I" | "--include-directory" => some { order with includeDirs := order.includeDirs ++ [value] }
  | "-isystem" => some { order with systemDirs := order.systemDirs ++ [value] }
  | "-iquote" => some { order with quoteDirs := order.quoteDirs ++ [value] }
  | "-idirafter" => some { order with laterDirs := order.laterDirs ++ [value] }
  | "-include" => some { order with headers := order.headers ++ [value] }
  | "-imacros" => some { order with macroFiles := order.macroFiles ++ [value] }
  | "-D" => some { order with directives := order.directives ++ definition value }
  | "-U" =>
    some { order with directives := order.directives ++ "#undef ".toList ++ value ++ ['\n'] }
  | "-l" => some (order.adding value true)
  | "-L" => some { order with libraryDirs := order.libraryDirs ++ [value] }
  | "-z" => linkerWord? { order with awaiting := true } value
  | "-Xlinker" => linkerWord? order value
  | "-MF" | "-MT" | "-MQ" => some (order.ruleOption option value)
  | _ => some order

/-- Obeys a choice about the language or the code behind "-f". -/
def feature (order : Order) (name : String) : Order :=
  let options := order.options
  let target := order.target
  match name with
  | "unsigned-char" | "no-signed-char" =>
    { order with options := { options with unsignedChar := true } }
  | "signed-char" | "no-unsigned-char" =>
    { order with options := { options with unsignedChar := false } }
  | "short-enums" => { order with options := { options with shortEnums := true } }
  | "no-short-enums" => { order with options := { options with shortEnums := false } }
  | "common" => { order with options := { options with common := true } }
  | "no-common" => { order with options := { options with common := false } }
  | "exceptions" => { order with options := { options with noExceptions := false } }
  | "no-exceptions" => { order with options := { options with noExceptions := true } }
  | "rtti" => { order with options := { options with noTypes := false } }
  | "no-rtti" => { order with options := { options with noTypes := true } }
  | "permissive" => { order with options := { options with permissive := true } }
  | "no-permissive" => { order with options := { options with permissive := false } }
  | "visibility=hidden" | "visibility=internal" =>
    { order with options := { options with hidden := true } }
  | "visibility=default" | "visibility=protected" =>
    { order with options := { options with hidden := false } }
  | "syntax-only" => order.upTo .check
  | "PIC" => { order with target := { target with library := 2, program := 0 } }
  | "pic" => { order with target := { target with library := 1, program := 0 } }
  | "PIE" => { order with target := { target with library := 0, program := 2 } }
  | "pie" => { order with target := { target with library := 0, program := 1 } }
  | "no-PIC" | "no-pic" | "no-PIE" | "no-pie" =>
    { order with target := { target with library := 0, program := 0 } }
  | "fast-math" => { order with target := { target with isFast := true } }
  | "no-fast-math" => { order with target := { target with isFast := false } }
  | "freestanding" | "no-hosted" => { order with target := { target with isFree := true } }
  | "openmp" => { order with target := { target with parallel := true, threads := true } }
  | _ => order

/-- Obeys a choice of how hard the compiler tries. -/
def level (order : Order) (name : String) : Order :=
  let isOptimized := name != "0"
  { order with
    options := { order.options with optimized := isOptimized }
    target := { order.target with
      isOptimized, isSmall := name == "s" || name == "z", isFast := name == "fast" } }

/-- Obeys a choice about the machine. -/
def machinePart (order : Order) (name : String) : Order :=
  match CompilerOption.behind? "no-" name.toList with
  | some part =>
    { order with
      target := { order.target with
        extensions := order.target.extensions.filter (· != part) } }
  | none =>
    { order with target := { order.target with extensions := order.target.extensions ++ [name] } }

/-- Options without a value that change what is made. -/
def simple? (order : Order) (option : String) : Option Order :=
  let rules := order.rules
  match option with
  | "-c" => some (order.upTo .object)
  | "-S" => some (order.upTo .assembly)
  | "-E" => some (order.upTo .text)
  | "-M" => some (order.upTo .rules)
  | "-MM" => some { order.upTo .rules with rules := { rules with ownOnly := true } }
  | "-MD" => some { order with rules := { rules with isWritten := true } }
  | "-MMD" => some { order with rules := { rules with isWritten := true, ownOnly := true } }
  | "-MP" => some { order with rules := { rules with hasPhonies := true } }
  | "-MG" => some order
  | "-P" => some { order with isBare := true }
  | "-shared" | "--shared" => some { order with shared := true }
  | "-no-pie" | "-static" => some { order with isMovable := false }
  | "-pie" | "-static-pie" => some { order with isMovable := true }
  | "-pipe" => some { order with piped := true }
  | "-v" => some { order with verbose := true }
  | "-w" => some (order.noting option)
  | "-pedantic" | "--pedantic" => some (order.noting "pedantic")
  | "-pedantic-errors" | "--pedantic-errors" =>
    some ({ order with options := { order.options with pedantic := true } }.noting option)
  | "-ansi" | "--ansi" => some { order with standard := some "ansi" }
  | "-nostdinc" => some { order with hasHeaders := false }
  | "-undef" => some { order with hasMacros := false }
  | "-pthread" => some { order with target := { order.target with threads := true } }
  | "-nostdlib" | "-nodefaultlibs" =>
    some { order with hasLibraries := false, hasStart := order.hasStart && option != "-nostdlib" }
  | "-nostartfiles" => some { order with hasStart := false }
  | "-dumpversion" => some { order with answer := some "13" }
  | "-dumpfullversion" => some { order with answer := some "13.3.0" }
  | "-print-multiarch" => some { order with answer := some "x86_64-linux-gnu" }
  | "--version" => some { order with answer := some "cc (Ubuntu 13.3.0-6ubuntu2~24.04.1) 13.3.0" }
  | "-dumpmachine" => some { order with answer := some "x86_64-linux-gnu" }
  | _ => none

/-- Obeys an option without a value; fails when it is unknown. -/
def plain? (order : Order) (option : List Char) : Option Order :=
  match order.simple? (String.ofList option) with
  | some order => some order
  | none =>
    match CompilerOption.behind? "-Wl," option with
    | some words => order.linkerWords? words.toList
    | none =>
      if (CompilerOption.behind? "-Wa," option).isSome then some order
      else if !CompilerOption.isKnown option then none
      else
        match option with
        | '-' :: 'O' :: name => some (order.level (String.ofList name))
        | '-' :: 'f' :: name => some (order.feature (String.ofList name))
        | '-' :: 'm' :: name => some (order.machinePart (String.ofList name))
        | '-' :: 'W' :: name => some (order.noting (String.ofList name))
        | _ =>
          match CompilerOption.behind? "-std=" option, CompilerOption.behind? "--std=" option with
          | some standard, _ | none, some standard => some { order with standard := some standard }
          | none, none => some order

/-- Reads a command line; fails at an option that is not understood. -/
def read? (order : Order) : List (List Char) → Option Order
  | [] => some order
  | argument :: rest =>
    if argument.head? ≠ some '-' ∨ argument = ['-'] then read? (order.adding argument false) rest
    else
      let parted := if CompilerOption.isSingle argument then none
        else CompilerOption.valued? argument
      match parted with
      | some (option, some value) => do read? (← order.valued? option value) rest
      | some (option, none) =>
        match rest with
        | value :: rest => do read? (← order.valued? option value) rest
        | [] => none
      | none => do read? (← order.plain? argument) rest

end Order

/-- Splits words for the preprocessor out of the options that carry them. -/
def spread : List (List Char) → List (List Char)
  | [] => []
  | argument :: rest =>
    if argument = "-Xpreprocessor".toList then spread rest
    else
      match CompilerOption.behind? "-Wp," argument with
      | some words =>
        let words := words.toList.splitOn ','
        let words := match words with
          | [option, path] =>
            if option = "-MD".toList || option = "-MMD".toList then [option, "-MF".toList, path]
            else words
          | _ => words
        words ++ spread rest
      | none => argument :: spread rest

end KernelCache.Compiler
