import KernelCache.C.Reading

/-
**Where the members of a record are.**

Members follow each other, each at a multiple of its alignment. Members of some bits share words of
their type as long as none of them crosses the end of one. In a union all members start together.

* `Layout.member` finds the place of one member.
* `Parse.layOut` does so for a whole record.
-/

namespace KernelCache.C

/-- A member whose place is still to be found. -/
structure Member where
  field : Field
  /-- The number of bits. -/
  width : Option Nat := none
  /-- The alignment that the source asks for. -/
  aligned : Option Nat := none
  isPacked : Bool := false

/-- What of a record has been laid out. -/
structure Layout where
  isUnion : Bool
  isPacked : Bool
  /-- The largest alignment of a member. -/
  limit : Option Nat
  /-- The first bit that is free. -/
  bits : Nat := 0
  alignment : Nat := 1
  fields : List Field := []

namespace Layout

/-- The end of the place of an object. -/
def after (layout : Layout) (offset size : Nat) : Layout :=
  if layout.isUnion then { layout with bits := max layout.bits (8 * size) }
  else { layout with bits := 8 * (offset + size) }

/-- The first octet that is free. -/
def offset (layout : Layout) (alignment : Nat) : Nat :=
  if layout.isUnion then 0 else Code.roundUp ((layout.bits + 7) / 8) alignment

/-- An alignment that is no larger than allowed. -/
def limited (layout : Layout) (alignment : Nat) : Nat :=
  match layout.limit with
  | some limit => min limit alignment
  | none => alignment

/-- Finds the place of a member of some bits. -/
def bitMember (layout : Layout) (member : Member) (size width : Nat) : Layout :=
  let start := if layout.isUnion then 0 else layout.bits
  let unit := 8 * size
  let packed := layout.isPacked || member.isPacked
  let aligned := max (if packed then 1 else layout.limited size) (member.aligned.getD 1)
  if width = 0 then { layout with bits := if layout.isUnion then layout.bits
                                  else Code.roundUp start unit }
  else
    let start :=
      if packed then start
      else if start / unit = (start + width - 1) / unit then start
      else Code.roundUp start unit
    let alignment := if member.field.name = "" then layout.alignment else max layout.alignment aligned
    let word := if packed then start / 8 else start / unit * size
    let ends := start + width
    let place : Field := { member.field with
      offset := word, bits := some (start - 8 * word, width) }
    { layout with
      bits := if layout.isUnion then max layout.bits ends else ends
      alignment
      fields := if member.field.name = "" then layout.fields else layout.fields ++ [place] }

/-- Finds the place of a member. -/
def member (records : Std.TreeMap String Record) (layout : Layout) (member : Member) : Layout :=
  let type := member.field.type
  let size := match type.bare with
    | .array none _ => 0
    | _ => Parse.sizeIn records type
  match member.width with
  | some width => layout.bitMember member size width
  | none =>
    let packed := layout.isPacked || member.isPacked
    let natural := if packed then 1 else layout.limited (Parse.alignmentIn records type)
    let alignment := max natural (member.aligned.getD 1)
    let offset := layout.offset alignment
    { layout.after offset size with
      alignment := max layout.alignment alignment
      fields := layout.fields ++ [{ member.field with offset }] }

/-- Finds the place of a class that the record continues. -/
def base (records : Std.TreeMap String Record) (layout : Layout) (base : Base) : Layout × Base :=
  match records[base.tag]? with
  | none => (layout, base)
  | some record =>
    let isEmpty := record.fields.isEmpty && !record.hasTable && record.used ≤ 1
      && record.bases.all fun inner => (records[inner.tag]?).all fun found => found.used ≤ 1
    if isEmpty then (layout, { base with offset := 0 })
    else
      let alignment := if layout.isPacked then 1 else record.alignment
      let offset := layout.offset alignment
      ({ layout.after offset record.used with alignment := max layout.alignment alignment },
        { base with offset })

end Layout

namespace Parse

/-- Lays out a record from the classes it continues and its members; `aligned` is the alignment that
the source asks for. -/
def layOut (tag : String) (members : List Member) (isPacked : Bool) (aligned : Option Nat) :
    Parse Unit := do
  let reading ← get
  let record ← recordAt tag
  let records := reading.records
  let hasTable (base : Base) : Bool := (records[base.tag]?).any (·.hasTable)
  let first := (record.bases.filter hasTable).take 1
  let isFirst (base : Base) : Bool := first.any fun other => other.tag == base.tag
  let start : Layout :=
    { isUnion := record.isUnion, isPacked, limit := (reading.packs.head?).filter (0 < ·) }
  let start := if record.hasTable && first.isEmpty
    then { start with bits := 64, alignment := 8 } else start
  let (layout, firsts) := first.foldl (fun (layout, done) base =>
    let (layout, placed) := layout.base records base
    (layout, done ++ [placed])) (start, [])
  let (layout, bases) := record.bases.foldl (fun (layout, done) base =>
    if isFirst base then (layout, done ++ firsts)
    else
      let (layout, placed) := layout.base records base
      (layout, done ++ [placed])) (layout, [])
  let layout := members.foldl (Layout.member records) layout
  let alignment := max layout.alignment (aligned.getD 1)
  let used := (layout.bits + 7) / 8
  let plus := reading.options.isPlus
  let size := Code.roundUp used alignment
  let size := if plus && size = 0 then alignment else size
  let isPlain := record.isAggregate && !record.hasTable && record.bases.isEmpty
  changeRecord tag fun record => { record with
    isComplete := true
    size
    alignment
    used := if isPlain then size else max used (if plus then 1 else 0)
    fields := layout.fields
    bases }

end Parse

end KernelCache.C
