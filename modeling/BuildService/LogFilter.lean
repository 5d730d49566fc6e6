import BuildService.FieldValue
import BuildService.LogLevel
import BuildService.Text.Alphanumeric
import BuildService.Text.Blank
import BuildService.Text.Utf8
/-!
Which events are reported.

A filter is a list of directives. A directive names a target, a span, fields, or
none of these, and a level; without anything but a level it is about all events.
Of the directives that fit an event the most specific one decides, so the list
is kept in that order, and a directive takes the place of an earlier one that is
about the same events.

Directives about spans or about the values of fields can be decided only inside
a span, and this service opens none. They are kept and written out, and never
let an event through.
-/

set_option autoImplicit false

namespace BuildService

/-- A field that a directive asks for, and the value it asks for, if any. -/
structure FieldMatch where
  name : String
  value : Option FieldValue
  deriving DecidableEq, Repr

structure Directive where
  target : Option String
  span : Option String
  fields : List FieldMatch
  level : LogLevel
  deriving DecidableEq, Repr

/-- Why a text is no filter. -/
inductive FilterFault where
  /-- A directive has no admissible shape. -/
  | shape
  /-- What stands in the place of a level is none. -/
  | level
  /-- The value of a field is a pattern that is not admissible. -/
  | pattern (fault : Regex.Fault)
  /-- A cut went through the middle of a character. -/
  | torn
  deriving DecidableEq, Repr

def FilterFault.message : FilterFault → String
  | .shape => "invalid filter directive"
  | .level =>
    "error parsing level filter: expected one of \"off\", \"error\", \"warn\", \"info\", " ++
      "\"debug\", \"trace\", or a number 0-5"
  | .pattern .malformed => "invalid field filter: error building NFA"
  | .pattern .wordEdge =>
    "invalid field filter: unsupported regex feature for DFAs: cannot build DFAs for regexes " ++
      "with Unicode word boundaries; switch to ASCII word boundaries, or heuristically enable " ++
      "Unicode word boundaries or use a different regex engine"
  | .torn => "a directive is cut inside a character"

namespace Directive

/-! ## Reading -/

/-- Where in a directive the reader stands. The numbers are byte offsets. -/
inductive Stage where
  | start
  | levelOrTarget
  | target
  | span (from_ : Nat)
  | field (from_ : Nat)
  | fields
  | level (from_ : Nat)
  deriving DecidableEq, Repr

/-- A piece of a text between two byte offsets. -/
def piece (bytes : List UInt8) (start stop : Nat) : Except FilterFault String :=
  match Utf8.decode? ((bytes.take stop).drop start) with
  | some s => .ok s
  | none => .error .torn

/-- A field, with the value that it must have if there is an equals sign. -/
def fieldMatch (s : String) : Except FilterFault FieldMatch :=
  match s.toList.splitOn '=' with
  | [] | [[]] => .error .shape
  | [name] => .ok ⟨String.ofList name, none⟩
  -- What stands behind a second equals sign is lost.
  | name :: value :: _ =>
    match FieldValue.parse (String.ofList value) with
    | .ok v => .ok ⟨String.ofList name, some v⟩
    | .error e => .error (.pattern e)

/-- What has been read of a directive, and where the reader stands. -/
structure Reader where
  stage : Stage
  directive : Directive

/-- Takes one character, which begins at a byte offset of the text without the blanks around it.
Pieces are cut out of the text with its blanks. -/
def Reader.step (bytes : List UInt8) (r : Reader) (offset : Nat) (c : Char) :
    Except FilterFault Reader :=
  match r.stage with
  | .start =>
    if c = '[' then .ok { r with stage := .span (offset + 1) }
    else if c = '-' ∨ c = ':' ∨ c = '_' ∨ Text.isAlphanumeric c then
      .ok { r with stage := .levelOrTarget }
    else .error .shape
  | .levelOrTarget =>
    if c = '=' then do
      let t ← piece bytes 0 offset
      .ok ⟨.level (offset + 1), { r.directive with target := some t }⟩
    else if c = '[' then do
      let t ← piece bytes 0 offset
      .ok ⟨.span (offset + 1), { r.directive with target := some t }⟩
    else .ok r
  | .target => if c = '=' then .ok { r with stage := .level (offset + 1) } else .error .shape
  | .span start =>
    if c = ']' then do
      let s ← piece bytes start offset
      .ok ⟨.target, { r.directive with span := some s }⟩
    else if c = '{' then do
      let s ← piece bytes start offset
      .ok ⟨.field (offset + 1), { r.directive with span := if s.isEmpty then none else some s }⟩
    else .ok r
  | .field start =>
    if c = '}' then do
      let f ← fieldMatch (← piece bytes start offset)
      .ok ⟨.fields, { r.directive with fields := r.directive.fields ++ [f] }⟩
    else .ok r
  | .fields => if c = ']' then .ok { r with stage := .target } else .error .shape
  | .level _ => .ok r

def Reader.run (bytes : List UInt8) : Reader → Nat → List Char → Except FilterFault Reader
  | r, _, [] => .ok r
  | r, offset, c :: cs => do
    let r ← r.step bytes offset c
    run bytes r (offset + c.utf8Size) cs

/-- The directive, once the text has ended. -/
def Reader.finish (bytes : List UInt8) (r : Reader) : Except FilterFault Directive :=
  match r.stage with
  -- Only at its end is it known which of the two the word is.
  | .levelOrTarget => do
    let t ← piece bytes 0 bytes.length
    match LogLevel.ofText? t with
    | some l => .ok { r.directive with level := l }
    | none => .ok { r.directive with target := some t }
  | .level start => do
    let t ← piece bytes start bytes.length
    -- An equals sign with nothing behind it asks for everything.
    if t.isEmpty then .ok r.directive
    else match LogLevel.ofText? t with
      | some l => .ok { r.directive with level := l }
      | none => .error .level
  | .target => .ok r.directive
  | _ => .error .shape

/-- Reads one directive. Without a level it lets everything through. -/
def parse (s : String) : Except FilterFault Directive := do
  let bytes := Utf8.encode s
  let r ← Reader.run bytes ⟨.start, ⟨none, none, [], .trace⟩⟩ 0 (Text.trimmed s.toList)
  r.finish bytes

/-! ## Order and text -/

/-- A directive that asks for a span or for fields. -/
def isDynamic (d : Directive) : Bool := d.span.isSome || !d.fields.isEmpty

/-- A directive that can be decided for an event on its own. -/
def isStatic (d : Directive) : Bool := d.span.isNone && d.fields.all (·.value.isNone)

/-- The order of two texts that may be missing: a missing one comes first. -/
def compareOption {α : Type} (cmp : α → α → Ordering) : Option α → Option α → Ordering
  | none, none => .eq
  | none, some _ => .lt
  | some _, none => .gt
  | some a, some b => cmp a b

/-- The order of two lists, element by element. -/
def compareList {α : Type} (cmp : α → α → Ordering) : List α → List α → Ordering
  | [], [] => .eq
  | [], _ :: _ => .lt
  | _ :: _, [] => .gt
  | a :: as, b :: bs => (cmp a b).then (compareList cmp as bs)

/-- The order of two fields: one with a value comes last. -/
def compareField (a b : FieldMatch) : Ordering :=
  (compare a.value.isSome.toNat b.value.isSome.toNat).then
    ((compare a.name b.name).then (compareOption FieldValue.order a.value b.value))

/-- How specific two directives are, compared: a longer target, then a span, then more fields;
after that the order of their texts. -/
def compareSpecific (a b : Directive) : Ordering :=
  (compareOption compare (a.target.map (·.utf8ByteSize)) (b.target.map (·.utf8ByteSize))).then
    ((compare a.span.isSome.toNat b.span.isSome.toNat).then
      ((compare a.fields.length b.fields.length).then
        ((compareOption compare a.target b.target).then
          ((compareOption compare a.span b.span).then
            (compareList compareField a.fields b.fields)))))

/-- Puts a directive into its place, the most specific ones first; one that is about the same
events is replaced. -/
def insert (d : Directive) : List Directive → List Directive
  | [] => [d]
  | e :: es =>
    match compareSpecific d e with
    | .gt => d :: e :: es
    | .eq => d :: es
    | .lt => e :: insert d es

def fieldText (f : FieldMatch) : String :=
  match f.value with
  | none => f.name
  | some v => f.name ++ "=" ++ v.text

def text (d : Directive) : String :=
  let fields :=
    if d.fields.isEmpty then ""
    else "\x7b" ++ ",".intercalate (d.fields.map fieldText) ++ "\x7d"
  let scope := if d.isDynamic then "[" ++ d.span.getD "" ++ fields ++ "]" else ""
  let front := d.target.getD "" ++ scope
  if d.target.isSome || d.isDynamic then front ++ "=" ++ d.level.name else d.level.name

/-- Whether a directive is about events of a target that have certain fields. -/
def concerns (d : Directive) (target : String) (fields : List String) : Bool :=
  d.target.all (fun t => t.toList.isPrefixOf target.toList) &&
    d.fields.all (fun f => fields.contains f.name)

end Directive

/-- The directives that can be decided for an event on its own, and those about spans and fields,
each list with the most specific directive first. -/
structure LogFilter where
  plain : List Directive
  dynamic : List Directive
  deriving DecidableEq, Repr

namespace LogFilter

/-- Sorts directives into a filter. A directive that asks for fields without values is in both
lists. No directive is taken for granted: without any the filter is empty and is written so. -/
def ofDirectives (ds : List Directive) : LogFilter where
  plain :=
    ((ds.filter (!·.isDynamic)) ++ (ds.filter fun d => d.isDynamic && d.isStatic)).foldl
      (fun es d => d.insert es) []
  dynamic := (ds.filter (·.isDynamic)).foldl (fun es d => d.insert es) []

/-- Reads a filter: directives with commas between them, empty ones left out. -/
def parse (s : String) : Except FilterFault LogFilter := do
  let parts := ((s.toList.splitOn ',').filter (!·.isEmpty)).map String.ofList
  .ok (ofDirectives (← parts.mapM Directive.parse))

def text (f : LogFilter) : String :=
  ",".intercalate ((f.plain ++ f.dynamic).map (·.text))

/-- Whether an event is let through. -/
def admits (f : LogFilter) (level : LogLevel) (target : String) (fields : List String) : Bool :=
  -- The first that is about the event is the most specific one.
  match f.plain.find? (·.concerns target fields) with
  | some d => d.level.admits level
  | none => false

/-- The directives of a text that are about a part of the events only, without blanks around
them. -/
def targetParts (s : String) : List String :=
  ((s.toList.splitOn ',').map Text.trimmed).filter (·.contains '=') |>.map String.ofList

/-- The text of the filter that a level on the command line and a text in the environment ask for
together: the level replaces the base level of the text and keeps its other directives. Without
either, the level is `info`. -/
def request (level : Option LogLevel) (environment : Option String) : String :=
  let environment := (environment.map Text.trim).filter (!·.isEmpty)
  match level, environment with
  | some l, some e => ",".intercalate (l.name :: targetParts e)
  | some l, none => l.name
  | none, some e => e
  | none, none => LogLevel.info.name

/-- The filter that a level on the command line and a text in the environment ask for. -/
def build (level : Option LogLevel) (environment : Option String) :
    Except FilterFault LogFilter :=
  parse (request level environment)

end LogFilter

end BuildService
