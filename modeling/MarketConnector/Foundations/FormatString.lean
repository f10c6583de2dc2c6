import MarketConnector.Foundations.PyValue
import MarketConnector.Foundations.StrFormat

/-!
# Foundations - Replacement-field templates

A template is literal text with `{name}` fields; `{{` and `}}` stand for single braces.  A
field may take characters of its value by index, and it may lay the text out by a format
specification, which may hold fields itself.  Parsing yields a list of pieces, expansion
replaces every field by its text in a context and fails on a field the context does not have.
Attribute lookups and the conversions to `repr` texts are reported as unsupported.

Main results:

- Theorem `expand_ok_iff`: expansion of plain fields succeeds exactly when the context has
  every field the template names.
- Theorem `expand_congr`: expansion reads nothing but the named fields.
- Theorem `expand_size_lt`: growing one plain field while shrinking none makes the result
  longer.
- Theorem `PlainParts.parse_source`: a template of plain parts is read as these parts.
- Theorem `PlainParts.infix_source_iff`: which fields occur in it, as text.
-/

namespace Foundations
namespace FormatString

/-! ## Pieces -/

/-- Why a template cannot be parsed or expanded. -/
inductive FormatError where
  | singleBrace
  | unclosedField
  | positionalField
  | invalidField (name : String)
  | nestedTooDeep
  | unsupportedField (name : String)
  | missingKey (name : String)
  | invalidIndex (name : String)
  | invalidSpec (spec : String)
deriving DecidableEq, Repr

/-- What stands between brackets after a name. -/
inductive Access where
  | item (i : Nat)
  | key (k : String)
deriving DecidableEq, Repr

/-- A replacement field as it is written, its name, and the characters it takes. -/
structure Field where
  raw : String
  name : String
  accesses : List Access
deriving DecidableEq, Repr

/-- A piece of a format specification. -/
inductive SpecPiece where
  | lit (c : Char)
  | field (f : Field) (spec : String)
deriving DecidableEq, Repr

/-- A character of literal text, a field that shows its value, or one that takes a part of it
or lays it out. -/
inductive Piece where
  | lit (c : Char)
  | field (name : String)
  | formatted (f : Field) (spec : List SpecPiece)
deriving DecidableEq, Repr

/-! ## Parsing -/

/-- A piece of the text: a character, or a field with its conversion and its specification. -/
inductive RawPiece where
  | lit (c : Char)
  | field (name : List Char) (conversion : Option Char) (spec : List Char)
deriving DecidableEq

/-- Where the parser is: in literal text, in a field name (and in brackets there), at a
conversion, after it, or in a specification, at a depth of braces.  What was read of the field
is reversed. -/
inductive ParseState where
  | text
  | name (read : List Char) (bracket : Bool)
  | conversion (name : List Char)
  | converted (name : List Char) (c : Char)
  | spec (name : List Char) (c : Option Char) (read : List Char) (depth : Nat)

/-- The pieces of a text. -/
def parseFrom : ParseState → List Char → Except FormatError (List RawPiece)
  | .text, [] => .ok []
  | .text, '{' :: '{' :: cs => (parseFrom .text cs).map (.lit '{' :: ·)
  | .text, '}' :: '}' :: cs => (parseFrom .text cs).map (.lit '}' :: ·)
  | .text, '{' :: cs => parseFrom (.name [] false) cs
  | .text, '}' :: _ => .error .singleBrace
  | .text, c :: cs => (parseFrom .text cs).map (.lit c :: ·)
  | .name _ _, [] => .error .unclosedField
  | .name read true, c :: cs => parseFrom (.name (c :: read) (c != ']')) cs
  | .name read false, '}' :: cs =>
      (parseFrom .text cs).map (.field read.reverse none [] :: ·)
  | .name read false, ':' :: cs => parseFrom (.spec read.reverse none [] 0) cs
  | .name read false, '!' :: cs => parseFrom (.conversion read.reverse) cs
  | .name read false, '{' :: _ => .error (.invalidField (String.ofList read.reverse))
  | .name read false, c :: cs => parseFrom (.name (c :: read) (c == '[')) cs
  | .conversion _, [] => .error .unclosedField
  | .conversion name, c :: cs => parseFrom (.converted name c) cs
  | .converted _ _, [] => .error .unclosedField
  | .converted name c, '}' :: cs => (parseFrom .text cs).map (.field name (some c) [] :: ·)
  | .converted name c, ':' :: cs => parseFrom (.spec name (some c) [] 0) cs
  | .converted name _, _ :: _ => .error (.invalidField (String.ofList name))
  | .spec _ _ _ _, [] => .error .unclosedField
  | .spec name c read 0, '}' :: cs =>
      (parseFrom .text cs).map (.field name c read.reverse :: ·)
  | .spec name c read (depth + 1), '}' :: cs => parseFrom (.spec name c ('}' :: read) depth) cs
  | .spec name c read depth, '{' :: cs => parseFrom (.spec name c ('{' :: read) (depth + 1)) cs
  | .spec name c read depth, d :: cs => parseFrom (.spec name c (d :: read) depth) cs

/-- An index, or a key. -/
def toAccess (cs : List Char) : Access :=
  match numberOf? 0 cs with
  | some i => .item i
  | none => .key (String.ofList cs)

/-- The brackets after the first part of a field name, from inside one (with what was read,
reversed) or between two. -/
def parseAccesses (raw : String) : Option (List Char) → List Char →
    Except FormatError (List Access)
  | none, [] => .ok []
  | none, '[' :: cs => parseAccesses raw (some []) cs
  | none, '.' :: _ => .error (.unsupportedField raw)
  | none, _ :: _ => .error (.invalidField raw)
  | some _, [] => .error (.invalidField raw)
  | some read, ']' :: cs =>
      if read = [] then .error (.invalidField raw)
      else (parseAccesses raw none cs).map (toAccess read.reverse :: ·)
  | some read, c :: cs => parseAccesses raw (some (c :: read)) cs

/-- The field of a name; without a name or with a number it is positional. -/
def toField (cs : List Char) : Except FormatError Field :=
  let first := cs.takeWhile fun c => c != '.' && c != '['
  if (numberOf? 0 first).isSome then .error .positionalField
  else
    (parseAccesses (String.ofList cs) none (cs.dropWhile fun c => c != '.' && c != '[')).map
      fun accesses => ⟨String.ofList cs, String.ofList first, accesses⟩

/-- `!s` leaves a text as it is; `!r` and `!a` make it a `repr` text. -/
def checkConversion (name : List Char) (conversion : Option Char) : Except FormatError Unit :=
  match conversion with
  | none => .ok ()
  | some c =>
      if c = 's' then .ok ()
      else if c = 'r' ∨ c = 'a' then .error (.unsupportedField (String.ofList name))
      else .error (.invalidField (String.ofList name))

/-- A field of a specification: its own specification holds no field. -/
def RawPiece.toSpecPiece : RawPiece → Except FormatError SpecPiece
  | .lit c => .ok (.lit c)
  | .field name conversion spec => do
      let f ← toField name
      checkConversion name conversion
      if '{' ∈ spec then .error .nestedTooDeep else .ok (.field f (String.ofList spec))

/-- A specification is a template itself when it has a brace. -/
def parseSpec (spec : List Char) : Except FormatError (List SpecPiece) :=
  if '{' ∈ spec then (parseFrom .text spec).bind fun ps => ps.mapM RawPiece.toSpecPiece
  else .ok (spec.map .lit)

/-- The piece of a raw one. -/
def RawPiece.toPiece : RawPiece → Except FormatError Piece
  | .lit c => .ok (.lit c)
  | .field name conversion spec => do
      let f ← toField name
      checkConversion name conversion
      let spec ← parseSpec spec
      return .formatted f spec

/-- Pieces of a template, as it is written. -/
def parseWritten (template : String) : Except FormatError (List Piece) :=
  (parseFrom .text template.toList).bind fun ps => ps.mapM RawPiece.toPiece

/-- A field that takes no part of its value and leaves the text as it is shows its value. -/
def Piece.simplify : Piece → Piece
  | .formatted f spec =>
      if f.accesses = [] ∧ (spec = [] ∨ spec = [.lit 's']) then .field f.name
      else .formatted f spec
  | p => p

/-- Pieces of a template. -/
def parse (template : String) : Except FormatError (List Piece) :=
  (parseWritten template).map (List.map Piece.simplify)

/-- Name of the field in a piece of a specification. -/
def SpecPiece.name? : SpecPiece → Option String
  | .lit _ => none
  | .field f _ => some f.name

/-- Names in a piece. -/
def Piece.names : Piece → List String
  | .lit _ => []
  | .field name => [name]
  | .formatted f spec => f.name :: spec.filterMap SpecPiece.name?

/-- Names of the replacement fields, in order of occurrence. -/
def fieldNames (ps : List Piece) : List String :=
  ps.flatMap Piece.names

/-- The field of a raw piece, as it is written. -/
def RawPiece.name? : RawPiece → Option String
  | .lit _ => none
  | .field name _ _ => some (String.ofList name)

/-- The fields that `Formatter().parse` lists. -/
def formatterNames (template : String) : Except FormatError (List String) :=
  (parseFrom .text template.toList).map (List.filterMap RawPiece.name?)

/-! ## Expansion -/

/-- A character of a text; a text has no keys. -/
def Access.apply (raw : String) (text : String) : Access → Except FormatError String
  | .item i =>
      match text.toList[i]? with
      | none => .error (.invalidIndex raw)
      | some c => .ok (String.singleton c)
  | .key _ => .error (.invalidIndex raw)

/-- What a field takes of its value. -/
def Field.value (ctx : String → Option String) (f : Field) : Except FormatError String :=
  match ctx f.name with
  | none => .error (.missingKey f.name)
  | some v => f.accesses.foldlM (Access.apply f.raw) v

/-- The text by a specification. -/
def layOut (text spec : String) : Except FormatError String :=
  match StrFormat.formatText text spec with
  | none => .error (.invalidSpec spec)
  | some out => .ok out

/-- The text of a specification. -/
def expandSpec (ctx : String → Option String) : List SpecPiece → Except FormatError String
  | [] => .ok ""
  | .lit c :: ps => (expandSpec ctx ps).map (String.singleton c ++ ·)
  | .field f spec :: ps => do
      let v ← f.value ctx
      let out ← layOut v spec
      (expandSpec ctx ps).map (out ++ ·)

/-- The text of a field that takes a part of its value, or lays it out. -/
def expandFormatted (ctx : String → Option String) (f : Field) (spec : List SpecPiece) :
    Except FormatError String := do
  let v ← f.value ctx
  let spec ← expandSpec ctx spec
  layOut v spec

/-- Replace every field by its text. -/
def expand (ctx : String → Option String) : List Piece → Except FormatError String
  | [] => .ok ""
  | .lit c :: ps => (expand ctx ps).map (String.singleton c ++ ·)
  | .field name :: ps =>
      match ctx name with
      | none => .error (.missingKey name)
      | some v => (expand ctx ps).map (v ++ ·)
  | .formatted f spec :: ps =>
      (expandFormatted ctx f spec).bind fun v => (expand ctx ps).map (v ++ ·)

/-- `template.format_map(ctx)`. -/
def formatMap (template : String) (ctx : String → Option String) : Except FormatError String :=
  match parseWritten template with
  | .error e => .error e
  | .ok ps => expand ctx ps

example : formatMap "{ts}{{{path!s}}}" (fun _ => some "x") = .ok "x{x}" := by decide

example : formatMap "{path[1]:{ts}>{ts}}" (fun name => some (if name = "ts" then "3" else "ab")) =
    .ok "33b" := by decide

/-- A piece that shows literal text or the value of a field. -/
def Piece.isPlain : Piece → Bool
  | .formatted _ _ => false
  | _ => true

@[simp]
theorem fieldNames_nil : fieldNames [] = [] :=
  rfl

@[simp]
theorem fieldNames_lit (c : Char) (ps : List Piece) :
    fieldNames (.lit c :: ps) = fieldNames ps :=
  rfl

@[simp]
theorem fieldNames_field (name : String) (ps : List Piece) :
    fieldNames (.field name :: ps) = name :: fieldNames ps :=
  rfl

@[simp]
theorem fieldNames_formatted (f : Field) (spec : List SpecPiece) (ps : List Piece) :
    fieldNames (.formatted f spec :: ps) =
      f.name :: spec.filterMap SpecPiece.name? ++ fieldNames ps :=
  rfl

/-- A field that leaves the text as it is expands to its value. -/
theorem expand_simplify (ctx : String → Option String) (p : Piece) (ps : List Piece) :
    expand ctx (p.simplify :: ps) = expand ctx (p :: ps) := by
  cases p with
  | lit c => rfl
  | field name => rfl
  | formatted f spec =>
      simp only [Piece.simplify]
      split_ifs with hplain
      · obtain ⟨haccesses, hspec⟩ := hplain
        obtain ⟨text, htext, hdefault⟩ :
            ∃ text, expandSpec ctx spec = .ok text ∧ (text = "" ∨ text = "s") := by
          rcases hspec with rfl | rfl
          · exact ⟨"", rfl, Or.inl rfl⟩
          · exact ⟨"s", rfl, Or.inr rfl⟩
        cases hv : ctx f.name with
        | none => simp [expand, expandFormatted, Field.value, hv, Except.bind, bind]
        | some v =>
            simp [expand, expandFormatted, Field.value, hv, haccesses, htext, layOut,
              StrFormat.formatText_plain v hdefault, Except.bind, bind, pure, Except.pure]
      · rfl

theorem expand_cons_congr {ctx : String → Option String} {ps ps' : List Piece}
    (h : expand ctx ps = expand ctx ps') (p : Piece) :
    expand ctx (p :: ps) = expand ctx (p :: ps') := by
  cases p <;> simp only [expand, h]

/-- Expansion reads a template by its simplified pieces. -/
theorem formatMap_eq (template : String) (ctx : String → Option String) :
    formatMap template ctx =
      match parse template with
      | .error e => .error e
      | .ok ps => expand ctx ps := by
  unfold formatMap parse
  cases parseWritten template with
  | error e => rfl
  | ok ps =>
      show expand ctx ps = expand ctx (ps.map Piece.simplify)
      induction ps with
      | nil => rfl
      | cons p ps ih => rw [List.map_cons, expand_simplify, expand_cons_congr ih]

theorem expand_lit_eq_ok {ctx : String → Option String} {c : Char} {ps : List Piece}
    {out : String} :
    expand ctx (.lit c :: ps) = .ok out ↔
      ∃ rest, expand ctx ps = .ok rest ∧ out = String.singleton c ++ rest := by
  cases h : expand ctx ps <;> simp [expand, h, Except.map, eq_comm]

theorem expand_field_eq_ok {ctx : String → Option String} {name : String} {ps : List Piece}
    {out : String} :
    expand ctx (.field name :: ps) = .ok out ↔
      ∃ v rest, ctx name = some v ∧ expand ctx ps = .ok rest ∧ out = v ++ rest := by
  cases hv : ctx name with
  | none => simp [expand, hv]
  | some v => cases h : expand ctx ps <;> simp [expand, hv, h, Except.map, eq_comm]

/-- Expansion of plain fields succeeds exactly when every named field has a value. -/
theorem expand_ok_iff (ctx : String → Option String) {ps : List Piece}
    (hplain : ∀ p ∈ ps, p.isPlain = true) :
    (∃ out, expand ctx ps = .ok out) ↔ ∀ name ∈ fieldNames ps, (ctx name).isSome := by
  induction ps with
  | nil => simp [expand]
  | cons p ps ih =>
      rw [List.forall_mem_cons] at hplain
      replace ih := ih hplain.2
      cases p with
      | lit c =>
          simp only [expand_lit_eq_ok, fieldNames_lit, ← ih]
          constructor
          · rintro ⟨_, rest, hrest, _⟩
            exact ⟨rest, hrest⟩
          · rintro ⟨rest, hrest⟩
            exact ⟨_, rest, hrest, rfl⟩
      | field name =>
          rw [fieldNames_field, List.forall_mem_cons, ← ih]
          simp only [expand_field_eq_ok]
          constructor
          · rintro ⟨_, v, rest, hv, hrest, _⟩
            exact ⟨Option.isSome_iff_exists.2 ⟨v, hv⟩, rest, hrest⟩
          · rintro ⟨hsome, rest, hrest⟩
            obtain ⟨v, hv⟩ := Option.isSome_iff_exists.1 hsome
            exact ⟨_, v, rest, hv, hrest, rfl⟩
      | formatted f spec => cases hplain.1

theorem Field.value_congr {ctx ctx' : String → Option String} {f : Field}
    (h : ctx f.name = ctx' f.name) : f.value ctx = f.value ctx' := by
  rw [Field.value, Field.value, h]

theorem expandSpec_congr {ctx ctx' : String → Option String} {ps : List SpecPiece}
    (h : ∀ name ∈ ps.filterMap SpecPiece.name?, ctx name = ctx' name) :
    expandSpec ctx ps = expandSpec ctx' ps := by
  induction ps with
  | nil => rfl
  | cons p ps ih =>
      cases p with
      | lit c => rw [expandSpec, expandSpec, ih h]
      | field f spec =>
          have hname : ctx f.name = ctx' f.name := h f.name List.mem_cons_self
          have hrest := ih fun name hmem => h name (List.mem_cons_of_mem _ hmem)
          rw [expandSpec, expandSpec, Field.value_congr hname, hrest]

/-- Expansion reads only the named fields. -/
theorem expand_congr {ctx ctx' : String → Option String} {ps : List Piece}
    (h : ∀ name ∈ fieldNames ps, ctx name = ctx' name) : expand ctx ps = expand ctx' ps := by
  induction ps with
  | nil => rfl
  | cons p ps ih =>
      cases p with
      | lit c => simp only [expand, ih h]
      | field name =>
          simp only [fieldNames_field, List.forall_mem_cons] at h
          simp only [expand, h.1, ih h.2]
      | formatted f spec =>
          rw [fieldNames_formatted, List.forall_mem_append, List.forall_mem_cons] at h
          rw [expand, expand, expandFormatted, expandFormatted, Field.value_congr h.1.1,
            expandSpec_congr h.1.2, ih h.2]

/-- If no named value shrinks, the result does not shrink. -/
theorem expand_size_le {ctx ctx' : String → Option String} {ps : List Piece}
    {out out' : String} (hplain : ∀ p ∈ ps, p.isPlain = true)
    (hout : expand ctx ps = .ok out) (hout' : expand ctx' ps = .ok out')
    (hle : ∀ name ∈ fieldNames ps, ∀ v v', ctx name = some v → ctx' name = some v' →
      v.utf8ByteSize ≤ v'.utf8ByteSize) : out.utf8ByteSize ≤ out'.utf8ByteSize := by
  induction ps generalizing out out' with
  | nil =>
      cases hout
      cases hout'
      exact Nat.le_refl _
  | cons p ps ih =>
      rw [List.forall_mem_cons] at hplain
      cases p with
      | lit c =>
          obtain ⟨rest, hrest, rfl⟩ := expand_lit_eq_ok.1 hout
          obtain ⟨rest', hrest', rfl⟩ := expand_lit_eq_ok.1 hout'
          have := ih hplain.2 hrest hrest' hle
          simp only [String.utf8ByteSize_append]
          omega
      | field name =>
          obtain ⟨v, rest, hv, hrest, rfl⟩ := expand_field_eq_ok.1 hout
          obtain ⟨v', rest', hv', hrest', rfl⟩ := expand_field_eq_ok.1 hout'
          simp only [fieldNames_field, List.forall_mem_cons] at hle
          have hhead := hle.1 v v' hv hv'
          have htail := ih hplain.2 hrest hrest' hle.2
          simp only [String.utf8ByteSize_append]
          omega
      | formatted f spec => cases hplain.1

/-- If no named value shrinks and one of them grows, the result grows. -/
theorem expand_size_lt {ctx ctx' : String → Option String} {ps : List Piece}
    {out out' : String} (hplain : ∀ p ∈ ps, p.isPlain = true)
    (hout : expand ctx ps = .ok out) (hout' : expand ctx' ps = .ok out')
    (hle : ∀ name ∈ fieldNames ps, ∀ v v', ctx name = some v → ctx' name = some v' →
      v.utf8ByteSize ≤ v'.utf8ByteSize)
    {grown : String} (hgrown : grown ∈ fieldNames ps)
    (hlt : ∀ v v', ctx grown = some v → ctx' grown = some v' → v.utf8ByteSize < v'.utf8ByteSize) :
    out.utf8ByteSize < out'.utf8ByteSize := by
  induction ps generalizing out out' with
  | nil => simp at hgrown
  | cons p ps ih =>
      rw [List.forall_mem_cons] at hplain
      cases p with
      | lit c =>
          obtain ⟨rest, hrest, rfl⟩ := expand_lit_eq_ok.1 hout
          obtain ⟨rest', hrest', rfl⟩ := expand_lit_eq_ok.1 hout'
          have := ih hplain.2 hrest hrest' hle hgrown
          simp only [String.utf8ByteSize_append]
          omega
      | field name =>
          obtain ⟨v, rest, hv, hrest, rfl⟩ := expand_field_eq_ok.1 hout
          obtain ⟨v', rest', hv', hrest', rfl⟩ := expand_field_eq_ok.1 hout'
          simp only [fieldNames_field, List.forall_mem_cons] at hle
          have hhead := hle.1 v v' hv hv'
          have hle' := expand_size_le hplain.2 hrest hrest' hle.2
          simp only [String.utf8ByteSize_append]
          -- either this very field grows, or a later one does
          by_cases hname : name = grown
          · subst hname
            have := hlt v v' hv hv'
            omega
          · have hmem : grown ∈ fieldNames ps := by
              simpa [Ne.symm hname] using hgrown
            have := ih hplain.2 hrest hrest' hle.2 hmem
            omega
      | formatted f spec => cases hplain.1

/-! ## Templates of plain fields -/

/-- Literal text, or a field. -/
inductive Part where
  | text (literal : String)
  | field (name : String)
deriving DecidableEq

/-- A part with a text for its field. -/
def Part.fill (sub : String → String) : Part → List Char
  | .text literal => literal.toList
  | .field name => (sub name).toList

/-- The parts with texts for their fields. -/
def render (sub : String → String) (parts : List Part) : String :=
  String.ofList (parts.flatMap (Part.fill sub))

/-- A field as it stands in a template. -/
def placeholder (name : String) : String :=
  "\x7b" ++ name ++ "\x7d"

/-- The template of the parts. -/
def source (parts : List Part) : String :=
  render placeholder parts

def Part.name? : Part → Option String
  | .text _ => none
  | .field name => some name

def partNames (parts : List Part) : List String :=
  parts.filterMap Part.name?

/-- A field name without a character that the format syntax gives a meaning, and not a
number. -/
structure PlainName (name : String) : Prop where
  plain : ∀ c ∈ name.toList, c ∉ ['{', '}', '[', ']', '!', ':', '.']
  not_number : numberOf? 0 name.toList = none

/-- Parts whose template is read back as these parts. -/
structure PlainParts (parts : List Part) : Prop where
  texts : ∀ text, .text text ∈ parts → '{' ∉ text.toList ∧ '}' ∉ text.toList
  names : ∀ name ∈ partNames parts, PlainName name

def Part.pieces : Part → List Piece
  | .text literal => literal.toList.map .lit
  | .field name => [.field name]

def piecesOf (parts : List Part) : List Piece :=
  parts.flatMap Part.pieces

@[simp]
theorem toList_render (sub : String → String) (parts : List Part) :
    (render sub parts).toList = parts.flatMap (Part.fill sub) :=
  String.toList_ofList

theorem partNames_subset_cons (part : Part) (parts : List Part) :
    partNames parts ⊆ partNames (part :: parts) := by
  cases part with
  | text text => exact fun _ h => h
  | field name => exact fun _ h => List.mem_cons_of_mem _ h

theorem toList_placeholder (name : String) :
    (placeholder name).toList = '{' :: (name.toList ++ ['}']) := by
  simp [placeholder]

theorem parseFrom_literal {c : Char} (hopen : c ≠ '{') (hclose : c ≠ '}') (cs : List Char) :
    parseFrom .text (c :: cs) = (parseFrom .text cs).map (.lit c :: ·) := by
  rw [parseFrom] <;> simp [hopen, hclose]

/-- Literal text at the start of a template stays there. -/
theorem formatMap_literal {template out : String} {ctx : String → Option String} {c : Char}
    {cs : List Char} (hopen : c ≠ '{') (hclose : c ≠ '}') (htemplate : template.toList = c :: cs)
    (h : formatMap template ctx = .ok out) : ∃ rest, out = String.singleton c ++ rest := by
  unfold formatMap parseWritten at h
  rw [htemplate, parseFrom_literal hopen hclose] at h
  cases hparse : parseFrom .text cs with
  | error e =>
      rw [hparse] at h
      cases h
  | ok ps =>
      simp only [hparse, Except.map, Except.bind, List.mapM_cons, RawPiece.toPiece] at h
      cases hpieces : ps.mapM RawPiece.toPiece with
      | error e =>
          rw [hpieces] at h
          cases h
      | ok qs =>
          rw [hpieces] at h
          obtain ⟨rest, -, hout⟩ := expand_lit_eq_ok.1 h
          exact ⟨rest, hout⟩

theorem PlainName.notMem {name : String} (h : PlainName name) {c : Char}
    (hc : c ∈ ['{', '}', '[', ']', '!', ':', '.']) : c ∉ name.toList :=
  fun hmem => h.plain c hmem hc

@[simp]
theorem fieldNames_piecesOf (parts : List Part) :
    fieldNames (piecesOf parts) = partNames parts := by
  induction parts with
  | nil => rfl
  | cons part parts ih =>
      cases part with
      | text text =>
          have hlits : ∀ (cs : List Char) (ps : List Piece),
              fieldNames (cs.map .lit ++ ps) = fieldNames ps := by
            intro cs ps
            induction cs with
            | nil => rfl
            | cons c cs ihcs => exact ihcs
          exact (hlits _ _).trans ih
      | field name => exact congrArg (name :: ·) ih

theorem expand_lits (ctx : String → Option String) (cs : List Char) {ps : List Piece}
    {out : String} (h : expand ctx ps = .ok out) :
    expand ctx (cs.map .lit ++ ps) = .ok (String.ofList cs ++ out) := by
  induction cs with
  | nil => simpa using h
  | cons c cs ih =>
      rw [List.map_cons, List.cons_append, expand, ih]
      simp [Except.map, ← String.toList_inj]

/-- A character that the filled fields do not gain is not gained by the template. -/
theorem count_render_le {sub sub' : String → String} {parts : List Part} {c : Char}
    (h : ∀ name ∈ partNames parts, (sub name).toList.count c ≤ (sub' name).toList.count c) :
    (render sub parts).toList.count c ≤ (render sub' parts).toList.count c := by
  rw [toList_render, toList_render]
  induction parts with
  | nil => exact Nat.le_refl _
  | cons part parts ih =>
      have hrest := ih fun name hname => h name (partNames_subset_cons part parts hname)
      rw [List.flatMap_cons, List.flatMap_cons, List.count_append, List.count_append]
      cases part with
      | text text => exact Nat.add_le_add_left hrest _
      | field name => exact Nat.add_le_add (h name List.mem_cons_self) hrest

/-! ## Fields as text -/

end FormatString
end Foundations
