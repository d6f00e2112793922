/-
**Options of the compiler driver.**

Most options change nothing about a kernel, but the driver refuses those it has never heard of.

* `CompilerOption.isKnown` tells them apart.
* `CompilerOption.valued?` splits an option that has a value, which may also be the next word.
-/

namespace KernelCache.CompilerOption

/-- The standards of the two languages. -/
def standards : List String :=
  let ofC := ["89", "90", "99", "9x", "11", "1x", "17", "18", "2x"]
  let ofCpp := ["98", "03", "0x", "11", "1y", "14", "1z", "17", "2a", "20", "2b", "23"]
  ["iso9899:1990", "iso9899:199409", "iso9899:1999", "iso9899:199x", "iso9899:2011", "iso9899:2017",
    "iso9899:2018"]
    ++ ofC.flatMap (fun year => ["c" ++ year, "gnu" ++ year])
    ++ ofCpp.flatMap fun year => ["c++" ++ year, "gnu++" ++ year]

/-- The words of a text. -/
def words (text : String) : List String :=
  ((text.splitOn "\n").flatMap fun line => line.splitOn " ").filter (· != "")

/-- Names of one kind of option. -/
structure Family where
  /-- Names that can stand behind "no-", too. -/
  switches : List String
  /-- Names that stand alone only. -/
  lone : List String
  /-- Names that stand behind "no-" only. -/
  denied : List String
  /-- Names that come with a number. -/
  numbered : List String
  /-- Names that come with any value. -/
  valued : List String
  /-- Names with the values that they come with. -/
  limited : List (String × List String)

/-- Names with their values from a text. -/
def limitsIn (text : String) : List (String × List String) :=
  (words text).filterMap fun word =>
    match word.splitOn "=" with
    | [name, values] => some (name, values.splitOn "|")
    | _ => none

/-- Warnings. -/
def warnings : Family where
  switches := words "NSObject-attribute abi abi-tag absolute-value address address-of-packed-member
    aggregate-return aggressive-loop-optimizations aliasing align-commons aligned-new all
    alloc-zero alloca ampersand analyzer-allocation-size analyzer-deref-before-check
    analyzer-double-fclose analyzer-double-free analyzer-exposure-through-output-file
    analyzer-exposure-through-uninit-copy analyzer-fd-access-mode-mismatch
    analyzer-fd-double-close analyzer-fd-leak analyzer-fd-phase-mismatch
    analyzer-fd-type-mismatch analyzer-fd-use-after-close analyzer-fd-use-without-check
    analyzer-file-leak analyzer-free-of-non-heap analyzer-imprecise-fp-arithmetic
    analyzer-infinite-recursion analyzer-jump-through-null analyzer-malloc-leak
    analyzer-mismatching-deallocation analyzer-null-argument analyzer-null-dereference
    analyzer-out-of-bounds analyzer-possible-null-argument analyzer-possible-null-dereference
    analyzer-putenv-of-auto-var analyzer-shift-count-negative analyzer-shift-count-overflow
    analyzer-stale-setjmp-buffer analyzer-tainted-allocation-size analyzer-tainted-array-index
    analyzer-tainted-assertion analyzer-tainted-divisor analyzer-tainted-offset
    analyzer-tainted-size analyzer-too-complex analyzer-unsafe-call-within-signal-handler
    analyzer-use-after-free analyzer-use-of-pointer-in-stale-stack-frame
    analyzer-use-of-uninitialized-value analyzer-va-arg-type-mismatch analyzer-va-list-exhausted
    analyzer-va-list-leak analyzer-va-list-use-after-va-end analyzer-write-to-const
    analyzer-write-to-string-literal arith-conversion array-bounds array-compare array-parameter
    array-temporaries assign-intercept attribute-alias attribute-warning attributes
    bad-function-cast bidi-chars bool-compare bool-operation builtin-declaration-mismatch
    builtin-macro-redefined c++-compat c++0x-compat c++11-compat c++11-extensions c++14-compat
    c++14-extensions c++17-compat c++17-extensions c++1z-compat c++20-compat c++20-extensions
    c++23-extensions c++2a-compat c-binding-type c11-c2x-compat c90-c99-compat c99-c11-compat
    cannot-profile cast-align cast-function-type cast-qual cast-result catch-value
    changes-meaning char-subscripts character-truncation chkp class-conversion class-memaccess
    clobbered comma-subscript comment comments compare-reals complain-wrong-lang
    conditionally-supported conversion conversion-extra conversion-null
    coverage-invalid-line-number coverage-mismatch cpp ctad-maybe-unsupported ctor-dtor-privacy
    dangling-else dangling-pointer dangling-reference date-time declaration-after-statement
    delete-incomplete delete-non-virtual-dtor deprecated deprecated-copy deprecated-copy-dtor
    deprecated-declarations deprecated-enum-enum-conversion deprecated-enum-float-conversion
    designated-init disabled-optimization discarded-array-qualifiers discarded-qualifiers
    div-by-zero do-subscript double-promotion duplicate-decl-specifier duplicated-branches
    duplicated-cond effc++ empty-body endif-labels enum-compare enum-conversion
    enum-int-mismatch error exceptions expansion-to-defined extra extra-semi fatal-errors
    float-conversion float-equal format format-contains-nul format-diag format-extra-args
    format-nonliteral format-overflow format-security format-signedness format-truncation
    format-y2k format-zero-length frame-address free-nonheap-object function-elimination hsa
    if-not-aligned ignored-attributes ignored-qualifiers implicit implicit-fallthrough
    implicit-function-declaration implicit-int implicit-interface implicit-procedure import
    inaccessible-base incompatible-pointer-types infinite-recursion inherited-variadic-ctor
    init-list-lifetime init-self inline int-conversion int-in-bool-context int-to-pointer-cast
    integer-division interference-size intrinsic-shadow intrinsics-std invalid-constexpr
    invalid-imported-macros invalid-memory-model invalid-offsetof invalid-pch invalid-utf8
    jump-misses-init line-truncation literal-suffix logical-not-parentheses logical-op long-long
    lto-type-mismatch main maybe-uninitialized memset-elt-size memset-transposed-args
    misleading-indentation mismatched-dealloc mismatched-new-delete mismatched-special-enum
    mismatched-tags missing-attributes missing-braces missing-declarations
    missing-field-initializers missing-format-attribute missing-include-dirs missing-noreturn
    missing-parameter-type missing-profile missing-prototypes missing-requires
    missing-template-keyword mudflap multichar multiple-inheritance multistatement-macros
    namespaces narrowing nested-externs noexcept noexcept-type non-template-friend
    non-virtual-dtor nonnull nonnull-compare normalized null-dereference objc-root-class odr
    old-style-cast old-style-declaration old-style-definition openacc-parallelism openmp-simd
    overflow overlength-strings overloaded-virtual override-init override-init-side-effects
    overwrite-recursive packed packed-bitfield-compat packed-not-aligned padded parentheses
    pedantic pessimizing-move placement-new pmf-conversions pointer-arith pointer-compare
    pointer-sign pointer-to-int-cast pragmas prio-ctor-dtor property-assign-default protocol
    psabi range-loop-construct real-q-constant realloc-lhs realloc-lhs-all redundant-decls
    redundant-move redundant-tags register reorder restrict return-local-addr return-type
    scalar-storage-order selector self-move sequence-point shadow shadow-compatible-local
    shadow-ivar shadow-local shift-count-negative shift-count-overflow shift-negative-value
    shift-overflow sign-compare sign-conversion sign-promo sized-deallocation
    sizeof-array-argument sizeof-array-div sizeof-pointer-div sizeof-pointer-memaccess
    stack-protector strict-aliasing strict-flex-arrays strict-null-sentinel strict-overflow
    strict-prototypes strict-selector-match string-compare stringop-overflow stringop-overread
    stringop-truncation subobject-linkage suggest-final-methods suggest-final-types
    suggest-override surprising switch switch-bool switch-default switch-enum
    switch-outside-range switch-unreachable sync-nand synth system-headers tabs target-lifetime
    tautological-compare templates terminate traditional traditional-conversion trampolines
    trigraphs trivial-auto-var-init tsan type-limits undeclared-selector undef undefined-do-loop
    underflow unicode uninit-variable-checking uninitialized unknown-pragmas unreachable-code
    unsafe-loop-optimizations unsuffixed-float-constants unused unused-but-set-parameter
    unused-but-set-variable unused-const-variable unused-dummy-argument unused-function
    unused-label unused-local-typedefs unused-macros unused-parameter unused-result unused-value
    unused-variable use-after-free use-without-only useless-cast varargs variadic-macros
    vector-operation-performance vexing-parse virtual-inheritance virtual-move-assign vla
    vla-parameter volatile volatile-register-var write-strings xor-used-as-pow
    zero-as-null-pointer-constant zero-length-bounds zerotrip"
  lone := words "error-implicit-function-declaration"
  denied := words "alloc-size-larger-than alloca-larger-than frame-larger-than larger-than stack-usage
    suggest-attribute vla-larger-than"
  numbered := words "alloc-size-larger-than alloca-larger-than frame-larger-than larger-than stack-usage
    vla-larger-than abi"
  valued := words ""
  limited := limitsIn "aligned-new=all|global|none array-bounds=0|1|2 array-parameter=0|1|2 attribute-alias=0|1|2
    bidi-chars=none cast-align=strict catch-value=0|1|2|3 dangling-pointer=0|1|2 format=0|1|2
    format-overflow=0|1|2 format-truncation=0|1|2 implicit-fallthrough=0|1|2|3|4|5
    normalized=id|nfc|nfkc|none overloaded-virtual=0|1|2 placement-new=0|1|2
    shadow=compatible-local|global|local shift-overflow=0|1|2 strict-aliasing=0|1|2|3
    strict-overflow=0|1|2|3|4|5 stringop-overflow=0|1|2|3|4
    suggest-attribute=cold|const|format|malloc|noreturn|pure unused-const-variable=0|1|2
    use-after-free=0|1|2|3"

/-- Features that the compiler has or does without. -/
def features : Family where
  switches := words "PIC PIE access-control aggressive-loop-optimizations align-functions align-jumps
    align-labels align-loops aligned-new all-virtual allocation-dce allow-leading-underscore
    allow-parameterless-variadic-functions allow-store-data-races alt-external-templates
    analyzer analyzer-call-summaries analyzer-feasibility analyzer-fine-grained
    analyzer-show-duplicate-count analyzer-state-merge analyzer-state-purge
    analyzer-suppress-followups analyzer-transitivity analyzer-undo-inlining
    analyzer-verbose-edges analyzer-verbose-state-changes argument-alias argument-noalias
    argument-noalias-anything argument-noalias-global asm associative-math
    asynchronous-unwind-tables auto-inc-dec bit-tests bounds-check branch-count-reg
    branch-probabilities branch-target-load-optimize branch-target-load-optimize2
    btr-bb-exclusive building-libgcc building-libgfortran building-libphobos-tests builtin
    caller-saves canon-prefix-map canonical-system-headers char8_t check-data-deps check-new
    check-pointer-bounds checking chkp-check-incomplete-type chkp-check-read chkp-check-write
    chkp-flexible-struct-trailing-arrays chkp-instrument-calls chkp-instrument-marked-only
    chkp-narrow-bounds chkp-optimize chkp-store-bounds chkp-treat-zero-dynamic-size-as-infinite
    chkp-use-fast-string-functions chkp-use-nochk-string-functions chkp-use-static-bounds
    chkp-use-static-const-bounds chkp-use-wrappers chkp-zero-input-bounds-for-main cilkplus
    code-hoisting combine-stack-adjustments common compare-debug compare-elim concepts
    concepts-ts cond-mismatch conserve-space conserve-stack constexpr-fp-except contracts
    coroutines cprop-registers crossjumping cse-follow-jumps cse-skip-blocks cx-fortran-rules
    cx-limited-range data-sections dbg-cnt-list dce debug debug-cpp debug-types-section
    declone-ctor-dtor deduce-init-list default-inline defer-pop delayed-branch
    delete-dead-exceptions delete-null-pointer-checks devirtualize devirtualize-at-ltrans
    devirtualize-speculatively diagnostics-color diagnostics-generate-patch
    diagnostics-parseable-fixits diagnostics-show-caret diagnostics-show-cwe
    diagnostics-show-labels diagnostics-show-line-numbers diagnostics-show-option
    diagnostics-show-path-depths diagnostics-show-rules diagnostics-show-template-tree
    directives-only dollars-in-identifiers dse dump-internal-locations dump-noaddr dump-passes
    dump-unnumbered dump-unnumbered-links dwarf2-cfi-asm early-inlining elide-constructors
    elide-type eliminate-dwarf2-dups eliminate-unused-debug-symbols eliminate-unused-debug-types
    emit-class-debug-always emit-struct-debug-baseonly emit-struct-debug-reduced
    enforce-eh-specs enum-int-equiv exceptions expensive-optimizations ext-numeric-literals
    extended-identifiers extern-tls-init external-templates fast-math fat-lto-objects
    finite-loops finite-math-only float-store fold-simple-inlines for-scope force-addr
    forward-propagate fp-int-builtin-inexact freestanding friend-injection function-cse
    function-sections gcse gcse-after-reload gcse-las gcse-lm gcse-sm gimple gnu-keywords gnu-tm
    gnu-unique gnu89-inline graphite graphite-identity guess-branch-probability guiding-decls
    handle-exceptions harden-compares harden-conditional-branches help hoist-adjacent-loads
    honor-std hosted huge-objects ident if-conversion if-conversion2 implement-inlines
    implicit-constexpr implicit-inline-templates implicit-templates indirect-inlining
    inhibit-size-directive inline inline-atomics inline-functions inline-functions-called-once
    inline-small-functions instrument-functions instrument-functions-once ipa-bit-cp ipa-cp
    ipa-cp-alignment ipa-cp-clone ipa-icf ipa-icf-functions ipa-icf-variables ipa-matrix-reorg
    ipa-modref ipa-profile ipa-pta ipa-pure-const ipa-ra ipa-reference ipa-reference-addressable
    ipa-sra ipa-stack-alignment ipa-strict-aliasing ipa-struct-reorg ipa-vrp ira-hoist-pressure
    ira-loop-pressure ira-share-save-slots ira-share-spill-slots
    isolate-erroneous-paths-attribute isolate-erroneous-paths-dereference ivopts jump-tables
    keep-gc-roots-live keep-inline-functions keep-static-consts keep-static-functions labels-ok
    lang-info-include-translate lang-info-include-translate-not lang-info-module-cmi
    large-source-files lax-vector-conversions leading-underscore lifetime-dse
    limit-function-alignment live-range-shrinkage loop-block loop-flatten loop-interchange
    loop-nest-optimize loop-optimize loop-parallelize-all loop-strip-mine loop-unroll-and-jam
    lra-remat lto lto-odr-type-merging lto-report lto-report-wpa math-errno mem-report
    mem-report-wpa merge-all-constants merge-constants merge-debug-strings
    module-implicit-inline module-lazy module-version-ignore modules-ts modulo-sched
    modulo-sched-allow-regmoves move-loop-invariants move-loop-stores ms-extensions mudflap
    mudflapir mudflapth name-mangling-version- new-abi new-inheriting-ctors new-ttp-matching
    non-call-exceptions nonansi-builtins nonnull-objects nothrow-opt omit-frame-pointer openacc
    openmp openmp-simd openmp-target-simd-clone operator-names opt-info optimize-register-move
    optimize-sibling-calls optimize-strlen optional-diags pack-struct partial-inlining
    pcc-struct-return pch-deps pch-preprocess peel-loops peephole peephole2 permissive pic pie
    plan9-extensions plt post-ipa-mem-report pre-ipa-mem-report predictive-commoning
    prefetch-loop-arrays preprocessed pretty-templates printf-return-value profile
    profile-abs-path profile-arcs profile-correction profile-generate profile-partial-training
    profile-reorder-functions profile-report profile-use profile-values reciprocal-math
    record-gcc-switches ree reg-struct-return regmove rename-registers reorder-blocks
    reorder-blocks-and-partition reorder-functions repo report-bug require-return-statement
    rerun-cse-after-loop rerun-loop-opt reschedule-modulo-scheduled-loops rounding-math rtti
    sanitize-address-use-after-scope sanitize-recover sanitize-trap
    sanitize-undefined-trap-on-error save-optimization-record sched-critical-path-heuristic
    sched-dep-count-heuristic sched-group-heuristic sched-interblock sched-last-insn-heuristic
    sched-pressure sched-rank-heuristic sched-spec sched-spec-insn-heuristic sched-spec-load
    sched-spec-load-dangerous sched-stalled-insns sched-stalled-insns-dep sched2-use-superblocks
    sched2-use-traces schedule-fusion schedule-insns schedule-insns2 section-anchors see
    sel-sched-pipelining sel-sched-pipelining-outer-loops sel-sched-reschedule-pipelined
    selective-scheduling selective-scheduling2 semantic-interposition short-enums short-wchar
    show-column shrink-wrap shrink-wrap-separate signaling-nans signed-bitfields signed-char
    signed-zeros single-precision-constant sized-deallocation split-ivs-in-unroller split-loops
    split-paths split-stack split-wide-types split-wide-types-early squangle ssa-backprop
    ssa-phiopt stack-check stack-clash-protection stack-protector stats stdarg-opt store-merging
    strength-reduce strict-aliasing strict-enums strict-flex-arrays strict-overflow
    strict-prototype strict-volatile-bitfields strong-eval-order sync-libcalls syntax-only
    tail-call-workaround target-help test-coverage this-is-variable thread-jumps time-report
    time-report-details toplevel-reorder tracer trampolines trapping-math trapv tree-bit-ccp
    tree-builtin-call-dce tree-ccp tree-ch tree-coalesce-vars tree-copy-prop tree-copyrename
    tree-cselim tree-dce tree-dominator-opts tree-dse tree-forwprop tree-fre
    tree-loop-distribute-patterns tree-loop-distribution tree-loop-if-convert
    tree-loop-if-convert-stores tree-loop-im tree-loop-ivcanon tree-loop-linear
    tree-loop-optimize tree-loop-vectorize tree-lrs tree-partial-pre tree-phiprop tree-pre
    tree-pta tree-reassoc tree-salias tree-scev-cprop tree-sink tree-slp-vectorize tree-slsr
    tree-sra tree-store-ccp tree-store-copy-prop tree-switch-conversion tree-tail-merge tree-ter
    tree-vect-loop-version tree-vectorize tree-vrp unconstrained-commons unit-at-a-time
    unreachable-traps unroll-all-loops unroll-completely-grow-size unroll-loops
    unsafe-loop-optimizations unsafe-math-optimizations unsigned-bitfields unsigned-char
    unswitch-loops unwind-tables use-cxa-atexit use-cxa-get-exception-ptr use-linker-plugin
    var-tracking var-tracking-assignments var-tracking-assignments-toggle var-tracking-uninit
    variable-expansion-in-unroller vect-cost-model verbose-asm version version-loops-for-strides
    visibility-inlines-hidden visibility-ms-compat vpt vtable-gc vtable-thunks vtv-counts
    vtv-debug weak web whole-program working-directory wpa wrapv wrapv-pointer xref zee
    zero-initialized-in-bss"
  lone := words "callgraph-info cf-protection chkp-first-field-has-own-bounds chkp-narrow-to-innermost-array
    compare-debug-second diagnostics-plain-output dump-ada-spec dump-ada-spec-slim dump-analyzer
    dump-analyzer-callgraph dump-analyzer-exploded-graph dump-analyzer-exploded-nodes
    dump-analyzer-exploded-nodes-2 dump-analyzer-exploded-nodes-3 dump-analyzer-exploded-paths
    dump-analyzer-feasibility dump-analyzer-json dump-analyzer-state-purge dump-analyzer-stderr
    dump-analyzer-supergraph dump-analyzer-untracked dump-final-insns live-patching
    module-header module-only multiflags profile-info-section stack-protector-all
    stack-protector-explicit stack-protector-strong stack-usage track-macro-expansion
    tree-coalesce-inlined-vars"
  denied := words "auto-profile builtin-printf modules random-seed stack-limit threadsafe-statics"
  numbered := words "abi-compat-version abi-version align-functions align-jumps align-labels align-loops
    aligned-new analyzer-verbosity blas-matmul-limit checking concepts-diagnostics-depth
    constexpr-cache-depth constexpr-depth constexpr-loop-limit constexpr-ops-limit
    diagnostics-column-origin diagnostics-minimum-margin-width init-character inline-limit
    inline-matmul-limit ira-verbose max-array-constructor max-errors max-identifier-length
    max-include-depth max-stack-var-size max-subrecord-length message-length objc-abi-version
    patchable-function-entry sched-stalled-insns sched-stalled-insns-dep sched-verbose tabstop
    template-backtrace-limit template-depth track-macro-expansion tree-parallelize-loops"
  valued := words "RTS ada-spec-parent analyzer-checker check contract-assumption-mode contract-build-level
    contract-continuation-mode contract-role contract-semantic dbg-cnt debug def doc-dir
    doc-file doc-inc dump-final-insns dump-go-spec fpe-summary fpe-trap gen-module-list
    go-c-header go-debug-escape-hash go-embedcfg go-pkgpath go-prefix go-relative-import-path
    help init-integer init-logical instrument-functions-exclude-file-list
    instrument-functions-exclude-function-list intrinsic-modules-path
    lang-info-include-translate lang-info-module-cmi libs location ltrans-output-list
    m2-pathname m2-prefix mod module-file module-header module-mapper only openacc-dim
    pre-include profile-dir profile-exclude-files profile-filter-files profile-generate
    profile-info-section profile-note profile-prefix-path profile-use random-seed resolution
    runtime-modules rust-cfg rust-crate rust-metadata-output sanitize-sections save-mixins
    self-test stack-check stack-limit-symbol tree-vectorizer-verbose use-list version wpa
    exec-charset input-charset wide-exec-charset debug-prefix-map file-prefix-map
    macro-prefix-map profile-prefix-map"
  limited := limitsIn "bounds-check=off|on|safeonly cf-protection=branch|check|full|none|return coarray=none|single
    contract-mode=off|on contract-strict-declarations=off|on
    convert=big-endian|little-endian|native diagnostics-color=always|auto|never
    diagnostics-column-unit=byte|display diagnostics-escape-format=bytes|unicode
    diagnostics-format=json|json-file|json-stderr|sarif-file|sarif-stderr|text
    diagnostics-path-format=none diagnostics-show-location=every-line|once
    diagnostics-urls=always|auto|never emit-struct-debug-detailed=none
    excess-precision=16|fast|standard fp-contract=fast|off|on gnat-encodings=all|gdb|minimal
    init-real=zero ira-algorithm=CB|priority ira-region=all|mixed|one lifetime-dse=0|1|2
    live-patching=inline-clone|inline-only-static lto-compression-level=0|1|12|16|2|3|4|5|6|7|8
    lto-partition=1to1|balanced|max|none|one offload-options= openmp-target-simd-clone=none
    pack-struct=1|16|2|4|8 permitted-flt-eval-methods=c11
    profile-reproducible=multithreaded|parallel-runs|serial
    profile-update=atomic|prefer-atomic|single reorder-blocks-algorithm=simple|stc
    rust-compile-until=const sanitize=address|leak|return|thread|undefined
    sanitize-recover=address|all|undefined sanitize-trap=all|return|undefined
    simd-cost-model=cheap|dynamic|unlimited|very-cheap
    sso-struct=big-endian|little-endian|native stack-limit-register=0|1|12|16|2|3|4|5|6|7|8
    stack-reuse=all|named_vars|none strict-flex-arrays=0|1|2|3 strong-eval-order=all|none
    tail-call-workaround=0|1|2 tls-model=global-dynamic|initial-exec|local-dynamic|local-exec
    trivial-auto-var-init=pattern|uninitialized|zero use-ld=bfd|gold|lld|mold
    vect-cost-model=cheap|dynamic|unlimited|very-cheap
    visibility=default|hidden|internal|protected vtable-verify=none
    zero-call-used-regs=all|skip|used lto=1|2|3|4|8|16|auto|jobserver"

/-- Parts of the machine and choices about it. -/
def machine : Family where
  switches := words "3dnow 3dnowa 80387 8bit-idiv abm accumulate-outgoing-args adx aes align-double
    align-stringops amx-bf16 amx-complex amx-fp16 amx-int8 amx-tile android avx avx2
    avx256-split-unaligned-load avx256-split-unaligned-store avx5124fmaps avx5124vnniw
    avx512bf16 avx512bitalg avx512bw avx512cd avx512dq avx512er avx512f avx512fp16 avx512ifma
    avx512pf avx512vbmi avx512vbmi2 avx512vl avx512vnni avx512vp2intersect avx512vpopcntdq
    avxifma avxneconvert avxvnni avxvnniint8 bmi bmi2 call-ms2sysv-xlogues cet-switch cld
    cldemote clflushopt clwb clzero cmpccxadd crc32 cx16 daz-ftz direct-extern-access enqcmd
    f16c fancy-math-387 fentry fma fma4 force-drap force-indirect-call fp-ret-in-387 fsgsbase
    fused-madd fxsr gather gfni hle hreset ieee-fp indirect-branch-cs-prefix
    indirect-branch-register inline-all-stringops inline-stringops-dynamically intel-syntax kl
    lwp lzcnt manual-endbr mitigate-rop mmx movbe movdir64b movdiri mpx ms-bitfields mwait
    mwaitx needed omit-leaf-frame-pointer pclmul pcommit pconfig pku popcnt prefer-avx128
    prefetchi prefetchwt1 prfchw ptwrite push-args raoint rdpid rdrnd rdseed recip record-mcount
    record-return red-zone relax-cmpxchg-loop rtd rtm sahf scatter serialize sgx sha shstk
    skip-rax-setup soft-float sse sse2 sse2avx sse3 sse4 sse4.1 sse4.2 sse4a sse5 ssse3
    stack-arg-probe stackrealign stv tbm tls-direct-seg-refs tsxldtrk uintr
    unroll-only-small-loops vaes vect8-ret-in-mem vpclmulqdq vzeroupper waitpkg wbnoinvd widekl
    xop xsave xsavec xsaveopt xsaves"
  lone := words "128bit-long-double 16 32 64 bionic dispatch-scheduler dump-tune-features general-regs-only
    glibc hard-float long-double-128 long-double-64 long-double-80 musl pc32 pc64 pc80
    sseregparm uclibc x32"
  denied := words "default iamcu nop-mcount"
  numbered := words "large-data-threshold stack-protector-guard-offset"
  valued := words "fentry-name fentry-section stack-protector-guard-symbol"
  limited := limitsIn "abi=ms|sysv address-mode=long align-data=abi|cacheline|compat
    align-functions=0|1|12|16|2|3|4|5|6|7|8 align-jumps=0|1|12|16|2|3|4|5|6|7|8
    align-loops=0|1|12|16|2|3|4|5|6|7|8 asm=att|intel branch-cost=0|1|2|3|4|5
    cmodel=large|medium|small cpu=generic|intel|native fpmath=387|both|sse|sse,387
    function-return=keep|thunk-extern harden-sls=all|none|return
    incoming-stack-boundary=12|3|4|5|6|7|8 indirect-branch=keep|thunk-extern
    instrument-return=none lam=none move-max=128|256|512|none
    prefer-vector-width=128|256|512|none preferred-stack-boundary=12|3|4|5|6|7|8
    recip=all|default|div|none|sqrt regparm=0|1|2|3|4|5|6 stack-protector-guard=global|tls
    store-max=128|256|512|none stringop-strategy=libcall|rep_byte tls-dialect=gnu|gnu2
    veclibabi=acml|svml"

/-- Machines by name. -/
def machines : List String :=
  words "nocona core2 nehalem corei7 westmere sandybridge corei7-avx ivybridge core-avx-i haswell
    core-avx2 broadwell skylake skylake-avx512 cannonlake icelake-client rocketlake
    icelake-server cascadelake tigerlake cooperlake sapphirerapids emeraldrapids alderlake
    raptorlake meteorlake graniterapids graniterapids-d bonnell atom silvermont slm goldmont
    goldmont-plus tremont gracemont sierraforest grandridge knl knm x86-64 x86-64-v2 x86-64-v3
    x86-64-v4 eden-x2 nano nano-1000 nano-2000 nano-3000 nano-x2 eden-x4 nano-x4 lujiazui k8
    k8-sse3 opteron opteron-sse3 athlon64 athlon64-sse3 athlon-fx amdfam10 barcelona bdver1
    bdver2 bdver3 bdver4 znver1 znver2 znver3 znver4 btver1 btver2 native"

/-- Machines that code can be made fast for. -/
def tunings : List String :=
  words "alderlake amdfam10 athlon-fx athlon64 athlon64-sse3 atom barcelona bdver1 bdver2 bdver3
    bdver4 bonnell broadwell btver1 btver2 cannonlake cascadelake cooperlake core-avx-i
    core-avx2 core2 corei7 corei7-avx eden-x2 eden-x4 emeraldrapids generic goldmont
    goldmont-plus gracemont grandridge graniterapids graniterapids-d haswell icelake-client
    icelake-server intel ivybridge k8 k8-sse3 knl knm lujiazui meteorlake nano nano-1000
    nano-2000 nano-3000 nano-x2 nano-x4 native nehalem nocona opteron opteron-sse3 raptorlake
    rocketlake sandybridge sapphirerapids sierraforest silvermont skylake skylake-avx512 slm
    tigerlake tremont westmere x86-64 znver1 znver2 znver3 znver4"

/-- Options for debuggers. -/
def debugging : List String :=
  ["", "0", "1", "2", "3", "gdb", "gdb0", "gdb1", "gdb2", "gdb3", "dwarf", "dwarf-2", "dwarf-3",
    "dwarf-4", "dwarf-5", "z", "split-dwarf", "stabs", "pubnames", "column-info"]

/-- Options that stand alone. -/
def singles : List String :=
  ["-w", "-ansi", "-pedantic", "-pedantic-errors", "-nostdlib", "-nostdinc", "-nostdinc++",
    "-nostartfiles", "-nodefaultlibs", "-nolibc", "-pthread", "-rdynamic", "-static", "-static-pie",
    "-static-libgcc", "-static-libstdc++", "-shared-libgcc", "-no-pie", "-pie", "-s", "-r", "-t",
    "-n", "-N", "-P", "-C", "-CC", "-H", "-Q", "-undef", "-trigraphs", "-pg", "-p", "-dM",
    "-undefined", "-dynamic", "-dynamiclib", "-Z", "-X"]

/-- What stands behind a piece of an option. -/
def behind? (piece : String) (option : List Char) : Option String :=
  if piece.toList.isPrefixOf option then some (String.ofList (option.drop piece.length)) else none

/-- Whether a name, which may have a value, is one of a family. -/
def Family.has (family : Family) (name : String) : Bool :=
  let chars := name.toList
  let key := String.ofList (chars.takeWhile (· != '='))
  match behind? (key ++ "=") chars with
  | some value =>
    (family.numbered.contains key && !value.isEmpty && value.toList.all Char.isDigit)
      || family.valued.contains key
      || (family.limited.lookup key).any fun values => values.contains value
  | none =>
    family.switches.contains name || family.lone.contains name
      || (behind? "no-" chars).any fun name =>
        family.switches.contains name || family.denied.contains name

/-- A choice about the machine. -/
def isMachine (name : String) : Bool :=
  machine.has name || (behind? "arch=" name.toList).any machines.contains
    || (behind? "tune=" name.toList).any tunings.contains

/-- A warning, turned on or off, or made an error. -/
def isWarning (name : String) : Bool :=
  let chars := name.toList
  match behind? "no-error=" chars, behind? "error=" chars with
  | some name, _ | none, some name => warnings.has name
  | none, none =>
    name = "" || (behind? "no-" chars).isSome || (behind? "a," chars).isSome
      || (behind? "p," chars).isSome || warnings.has name

/-- How hard the compiler tries. -/
def isLevel (name : String) : Bool :=
  name.toList.all Char.isDigit || ["s", "z", "g", "fast"].contains name

/-- Whether the driver has heard of an option. -/
def isKnown (option : List Char) : Bool :=
  let families : List (String × (String → Bool)) := [
    ("-O", isLevel), ("-g", debugging.contains), ("-std=", standards.contains),
    ("--std=", standards.contains), ("--param=", fun _ => true), ("-W", isWarning), ("-f", features.has), ("-m", isMachine)]
  singles.contains (String.ofList option)
    || families.any fun (piece, accepts) => (behind? piece option).any accepts

/-- Options of the linker whose value is the next word. -/
def valuedLinker : List String :=
  ["-rpath", "--rpath", "-rpath-link", "--rpath-link", "-soname", "--soname", "-h", "-z", "-y",
    "-u", "-e", "-Map", "--entry", "--undefined"]

/-- Options of the linker that stand alone. -/
def linkerSingles : List String :=
  ["--as-needed", "--no-as-needed", "--gc-sections", "--no-gc-sections", "--build-id",
    "--no-undefined", "--allow-shlib-undefined", "--no-allow-shlib-undefined", "-Bsymbolic",
    "-Bsymbolic-functions", "-Bstatic", "-Bdynamic", "--export-dynamic", "-E", "--strip-all",
    "--strip-debug", "-s", "-S", "-x", "--start-group", "--end-group", "-(", "-)",
    "--enable-new-dtags", "--disable-new-dtags", "--allow-multiple-definition", "-v", "--verbose",
    "-t", "-q", "-melf_x86_64", "--hash-style=gnu", "--hash-style=sysv", "--hash-style=both",
    "--no-warn-mismatch", "--warn-common", "--eh-frame-hdr", "--fatal-warnings", "-g", "-n", "-N"]

/-- Whether the linker knows an option that stands alone. -/
def isLinker (option : String) : Bool :=
  let chars := option.toList
  linkerSingles.contains option || (behind? "-O" chars).any (·.toList.all Char.isDigit)
    || ["-L", "-f", "--build-id=", "-rpath=", "--rpath=", "-soname=", "--soname=", "-z", "-Map=",
      "--sysroot=", "--defsym="].any fun piece => (behind? piece chars).isSome

/-- Options with a value, which may stand in the same word. -/
def joinable : List String :=
  ["-o", "-x", "-I", "-D", "-U", "-L", "-l", "-u", "-z", "-T", "-e", "-MF", "-MT", "-MQ",
    "-include", "-imacros", "-isystem", "-iquote", "-idirafter"]

/-- Options whose value is the next word. -/
def separate : List String :=
  ["-include", "-imacros", "-isystem", "-iquote", "-idirafter", "-Xlinker", "-Xassembler",
    "--param", "--include-directory"]

/-- Whether an option stands alone although another one starts it. -/
def isSingle (option : List Char) : Bool :=
  singles.contains (String.ofList option)
    || ["-undef", "-export-dynamic"].contains (String.ofList option)

/-- An option that takes a value, and the value if it stands in the same word. -/
def valued? (word : List Char) : Option (String × Option (List Char)) :=
  match separate.find? fun option => option.toList = word with
  | some option => some (option, none)
  | none =>
    (joinable.find? fun option => option.toList.isPrefixOf word).map fun option =>
      let value := word.drop option.length
      (option, if value = [] then none else some value)

end KernelCache.CompilerOption
