import KernelCache.Standard.Declaration
import KernelCache.C.Symbol

/-
**What goes wrong in C++.**

Containers call functions of the library where they fail, so that their headers need not have the
classes of what is thrown. The headers with these classes and the library have the same text.

* `Failure.headers` are the headers.
* `Failure.library` is the source of the functions, with their symbols.
-/

namespace KernelCache.Standard.Plus.Failure

/-- The class that all others continue. -/
def base : String :=
  "namespace std <% class exception <% public:
    exception() noexcept <%%> exception(const exception&) = default;
    exception& operator=(const exception&) = default;
    virtual ~exception() noexcept <%%>
    virtual const char* what() const noexcept <% return \"std::exception\"; %>
  %>; %>\n"

/-- A class of what is thrown with a text that never changes. -/
def silent (name parent text : String) : String :=
  "namespace std <% class " ++ name ++ " : public " ++ parent ++ " <% public:
    const char* what() const noexcept override <% return \"" ++ text ++ "\"; %> %>; %>\n"

/-- A text that copies share. -/
def sharedText : String :=
  "namespace std <% class __text <% char* _p;
    void _drop() noexcept <% if (!--*(long*)_p) __builtin_free(_p); %>
  public:
    explicit __text(const char* s) <%
      _p = (char*)__builtin_malloc(__builtin_strlen(s) + 9);
      *(long*)_p = 1; __builtin_strcpy(_p + 8, s);
    %>
    __text(const __text& o) noexcept : _p(o._p) <% ++*(long*)_p; %>
    __text& operator=(const __text& o) noexcept <%
      ++*(long*)o._p; _drop(); _p = o._p; return *this;
    %>
    ~__text() <% _drop(); %>
    const char* get() const noexcept <% return _p + 8; %>
  %>; %>\n"

/-- The functions that make objects of a class, of which one takes a text of the library. -/
def makers (whole : Bool) (name first second : String) : String :=
  (if whole then "explicit " ++ name ++ "(const string& s) : " ++ first ++ " <%%>\n" else "")
    ++ "explicit " ++ name ++ "(const char* s) : " ++ second ++ " <%%>\n"

/-- A class of what is thrown with a text. -/
def told (whole : Bool) (name : String) : String :=
  "namespace std <% class " ++ name ++ " : public exception <% __text _text; public:\n"
    ++ makers whole name "_text(s.c_str())" "_text(s)"
    ++ "const char* what() const noexcept override <% return _text.get(); %> %>; %>\n"

/-- A class that continues one with a text. -/
def further (whole : Bool) (name parent : String) : String :=
  "namespace std <% class " ++ name ++ " : public " ++ parent ++ " <% public:\n"
    ++ makers whole name (parent ++ "(s)") (parent ++ "(s)") ++ "%>; %>\n"

/-- Classes that continue one with a text, with that one. -/
def families : List (String × String) :=
  [("domain_error", "logic_error"), ("invalid_argument", "logic_error"),
    ("length_error", "logic_error"), ("out_of_range", "logic_error"),
    ("range_error", "runtime_error"), ("overflow_error", "runtime_error"),
    ("underflow_error", "runtime_error")]

/-- All classes with a text. -/
def classes (whole : Bool) : String :=
  told whole "logic_error" ++ told whole "runtime_error"
    ++ String.join (families.map fun (name, parent) => further whole name parent)

/-- What is thrown where there is no memory. -/
def allocation : String :=
  silent "bad_alloc" "exception" "std::bad_alloc"
    ++ silent "bad_array_new_length" "bad_alloc" "std::bad_array_new_length"

/-- What is thrown where a type is not the one that is wanted. -/
def cast : String :=
  silent "bad_cast" "exception" "std::bad_cast" ++ silent "bad_typeid" "exception" "std::bad_typeid"

/-- What is thrown where a variant holds another type. -/
def choice : String :=
  "namespace std <% class bad_variant_access : public exception <% const char* _text; public:
    bad_variant_access() noexcept : _text(\"bad variant access\") <%%>
    bad_variant_access(const char* s) noexcept : _text(s) <%%>
    const char* what() const noexcept override <% return _text; %> %>; %>\n"

/-- Classes that single headers have, with their texts. -/
def single : List (String × String) :=
  [("bad_function_call", silent "bad_function_call" "exception" "bad_function_call"),
    ("bad_optional_access", silent "bad_optional_access" "exception" "bad optional access"),
    ("bad_weak_ptr", silent "bad_weak_ptr" "exception" "bad_weak_ptr"),
    ("bad_any_cast", silent "bad_any_cast" "bad_cast" "bad any_cast"),
    ("bad_variant_access", choice)]

/-- Classes of which the library throws objects with a text. -/
def toldNames : List String :=
  ["logic_error", "domain_error", "invalid_argument", "length_error", "out_of_range",
    "runtime_error", "overflow_error"]

/-- Classes of which the library throws objects without more. -/
def silentNames : List String :=
  ["bad_alloc", "bad_array_new_length", "bad_cast", "bad_typeid", "bad_function_call",
    "bad_optional_access", "bad_weak_ptr", "bad_any_cast"]

/-- The name of the function that throws an object of a class. -/
def throwerOf (name : String) : String := "__throw_" ++ name

/-- The functions of the library: name, parameters, whether more can follow, and body. -/
def functions : List (String × String × Bool × String) :=
  toldNames.map (fun name =>
      (throwerOf name, "const char* s", false, "throw " ++ name ++ "(s);"))
    ++ silentNames.map (fun name => (throwerOf name, "", false, "throw " ++ name ++ "();"))
    ++ [(throwerOf "bad_variant_access", "const char* s", false, "throw bad_variant_access(s);"),
      (throwerOf "out_of_range_fmt", "const char* s", true,
        "char t[400]; __builtin_va_list a; __builtin_va_start(a, s);
        __builtin_vsnprintf(t, sizeof t, s, a); __builtin_va_end(a); throw out_of_range(t);")]

/-- The parameters of a function between brackets. -/
def parametersOf (parameters : String) (isOpen : Bool) : String :=
  "(" ++ parameters ++ (if isOpen then ", ..." else "") ++ ")"

/-- The declarations of the functions. -/
def declarations : String :=
  "namespace std <%\n" ++ String.join (functions.map fun (name, parameters, isOpen, _) =>
    "[[noreturn]] void " ++ name ++ parametersOf parameters isOpen ++ ";\n") ++ "%>\n"

/-- The symbol of a function. -/
def symbolOf (name parameters : String) (isOpen : Bool) : String :=
  let text : C.CType := .pointer (.const .char)
  C.Symbol.ofFunction ["std"] name .ordinary false false .void
    (if parameters = "" then [] else [text]) isOpen

/-- The functions of the library with their symbols. -/
def library : Source :=
  (functions.map fun (name, parameters, isOpen, _) => symbolOf name parameters isOpen,
    base ++ sharedText ++ classes false ++ allocation ++ cast ++ String.join (single.map (·.2))
      ++ "namespace std <%\n" ++ String.join (functions.map fun (name, parameters, isOpen, body) =>
        "void " ++ name ++ parametersOf parameters isOpen ++ " <% " ++ body ++ " %>\n") ++ "%>\n")

/-- The headers. -/
def headers : List (String × String) :=
  [("exception", base ++ silent "bad_exception" "exception" "std::bad_exception"
      ++ "namespace std <% typedef void (*terminate_handler)(); [[noreturn]] void terminate() noexcept; %>\n"),
    ("bits/errors", sharedText), ("bits/throwing", declarations),
    ("bits/allocation", "#include <exception>\n" ++ allocation),
    ("bits/cast", "#include <exception>\n" ++ cast),
    ("stdexcept", "#include <exception>\n#include <bits/errors>\n#include <bits/string_core>\n"
      ++ classes true)]
  ++ single.map fun (name, text) =>
    ("bits/" ++ name, "#include <exception>\n"
      ++ (if name = "bad_any_cast" then "#include <bits/cast>\n" else "") ++ text)

end KernelCache.Standard.Plus.Failure
