import Routectl.Library.KeyedMap
import Routectl.Trim.SteadyState

/-! The near-lossless marks: stale results of a path are superseded first, then
copies among the survivors are dropped. -/
namespace Routectl.Trim
open Library

def pathKeys : List String := ["file_path", "path"]

/-- `none` unless the first of the keys that holds a non-empty string. -/
def extractPath (input : Json) : Option String :=
  pathKeys.findSome? fun key =>
    match input.field key with
    | some (.string path) => if path.isEmpty then none else some path
    | _ => none

inductive MarkKind where
  | none
  | supersession
  | dedup
deriving Repr, DecidableEq

inductive ScanUnitKind where
  | toolUse (id : String) (path : Option String)
  | toolResult (toolUseId : String)
deriving Repr, DecidableEq

structure ScanUnit where
  messageIndex : Nat
  partIndex : Nat
  tokens : Nat
  hash : UInt64
  serialized : List UInt8
  kind : ScanUnitKind
  hashed : hash = fnv1aHash serialized

structure NearLosslessMarks where
  marks : List ElisionMark := []
  dedupTokens : Nat := 0
  supersessionTokens : Nat := 0
  pathUnits : Nat := 0
  pathExtractable : Nat := 0

/-- The payload of a part that the pass may elide, with its tool linkage. -/
def nearLosslessUnit : ContentPart → Option (Json × ScanUnitKind)
  | .known (.toolResult toolUseId content _ _) =>
    if isPlaceholder content then .none else some (content, .toolResult toolUseId)
  | .known (.toolUse id _ input _) =>
    if isPlaceholder input then .none else some (input, .toolUse id (extractPath input))
  | _ => .none

def scanUnit (messageIndex partIndex : Nat) (target : Json) (kind : ScanUnitKind) : ScanUnit :=
  { messageIndex, partIndex, tokens := target.bytes.length / bytesPerTokenEstimate,
    hash := fnv1aHash target.bytes, serialized := target.bytes, kind, hashed := rfl }

def scanMessage (message : Message) (messageIndex : Nat) : List ScanUnit :=
  match message.content with
  | .parts parts =>
    parts.zipIdx.filterMap fun (part, partIndex) =>
      (nearLosslessUnit part).map fun (target, kind) => scanUnit messageIndex partIndex target kind
  | _ => []

/-- The first call of an id that carries a path keeps it. -/
def registerPath (idToPath : KeyedMap String String) (unit : ScanUnit) : KeyedMap String String :=
  match unit.kind with
  | .toolUse id (some path) =>
    if (idToPath.lookup id).isSome then idToPath else idToPath.insert id path
  | _ => idToPath

def collectScanUnits (request : ChatRequest) (start scanEnd : Nat) :
    List ScanUnit × KeyedMap String String :=
  let units := (((request.messages.take scanEnd).drop start).zipIdx start).flatMap
    fun (message, messageIndex) => scanMessage message messageIndex
  (units, units.foldl registerPath ∅)

/-- The path a result is attributed to. -/
def resultPath (idToPath : KeyedMap String String) (unit : ScanUnit) : Option String :=
  match unit.kind with
  | .toolResult toolUseId => idToPath.lookup toolUseId
  | .toolUse _ _ => .none

def groupResult (idToPath : KeyedMap String String) (groups : KeyedMap String (List Nat))
    (row : ScanUnit × Nat) : KeyedMap String (List Nat) :=
  match resultPath idToPath row.1 with
  | .none => groups
  | some path => groups.insert path ((groups.lookup path).getD [] ++ [row.2])

/-- The earlier results of a group whose hash is not that of the latest one. -/
def staleResults (units : List ScanUnit) (group : List Nat) : List Nat :=
  match group.getLast? with
  | .none => []
  | some last =>
    group.dropLast.filter fun index =>
      units[index]?.map ScanUnit.hash ≠ units[last]?.map ScanUnit.hash

def supersede (kinds : List MarkKind) (index : Nat) : List MarkKind :=
  kinds.set index .supersession

/-- Also counts the results whose attribution was tried, and those that have a
path. -/
def classifySupersession (units : List ScanUnit) (idToPath : KeyedMap String String)
    (kinds : List MarkKind) : List MarkKind × Nat × Nat :=
  let results := units.filter fun unit =>
    match unit.kind with
    | .toolResult _ => true
    | .toolUse _ _ => false
  let groups := units.zipIdx.foldl (groupResult idToPath) ∅
  (groups.entries.foldl (fun kinds group => (staleResults units group.2).foldl supersede kinds) kinds,
   results.length, (results.filter fun unit => (resultPath idToPath unit).isSome).length)

/-- Walks the units with their kinds so far; a bucket holds the survivors of one
hash. -/
def dedupFrom (buckets : KeyedMap UInt64 (List ScanUnit)) :
    List (ScanUnit × MarkKind) → List MarkKind
  | [] => []
  | (unit, kind) :: rest =>
    if kind ≠ .none then kind :: dedupFrom buckets rest
    else
      let bucket := (buckets.lookup unit.hash).getD []
      if bucket.any fun first => first.serialized = unit.serialized then
        .dedup :: dedupFrom buckets rest
      else .none :: dedupFrom (buckets.insert unit.hash (bucket ++ [unit])) rest

def classifyDedupSurvivors (units : List ScanUnit) (kinds : List MarkKind) : List MarkKind :=
  dedupFrom ∅ (units.zip kinds)

def nearLosslessMark (unit : ScanUnit) : ElisionMark :=
  { messageIndex := unit.messageIndex, partIndex := unit.partIndex, originalTokens := unit.tokens,
    replacement := .none }

def saturatingTokens (units : List ScanUnit) : Nat :=
  units.foldl (fun total unit => min (total + unit.tokens) u64Max) 0

/-- The units of one kind, in order. -/
def unitsOf (kind : MarkKind) (rows : List (ScanUnit × MarkKind)) : List ScanUnit :=
  (rows.filter fun row => row.2 = kind).map Prod.fst

def emitSortedMarks (units : List ScanUnit) (kinds : List MarkKind) : List ElisionMark × Nat × Nat :=
  let rows := units.zip kinds
  ((rows.filter fun row => row.2 ≠ .none).map fun row => nearLosslessMark row.1,
   saturatingTokens (unitsOf .dedup rows), saturatingTokens (unitsOf .supersession rows))

def collectNearLosslessMarks (request : ChatRequest) (start scanEnd : Nat) : NearLosslessMarks :=
  let scanEnd := min scanEnd request.messages.length
  if scanEnd ≤ start then {}
  else
    let (units, idToPath) := collectScanUnits request start scanEnd
    let (superseded, pathUnits, pathExtractable) :=
      classifySupersession units idToPath (List.replicate units.length .none)
    let kinds := classifyDedupSurvivors units superseded
    let (marks, dedupTokens, supersessionTokens) := emitSortedMarks units kinds
    { marks, dedupTokens, supersessionTokens, pathUnits, pathExtractable }

end Routectl.Trim
