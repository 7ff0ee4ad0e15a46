import Routectl.Library.Splitting
import Routectl.Schema.Chunk

/-! The envelope that carries the scheme and the id of a reasoning artifact beside its
blob, and what its reader makes of it. -/
namespace Routectl.Schema
open Library

def maxFieldBytes : Nat := 128

def isTokenChar (character : Char) : Bool :=
  character.isAlphanum || character = '-' || character = '_'

/-- A scheme or an id that can stand between separators. -/
def isToken (field : String) : Bool :=
  field ≠ "" && field.utf8ByteSize ≤ maxFieldBytes && field.toList.all isTokenChar

def separator : Char := '.'

/-- The claim an envelope makes of itself: its scheme, its id and its blob. -/
def unwrap (envelope : String) : Option (String × Option String × String) :=
  (splitOnce separator envelope.toList).bind fun (version, afterVersion) =>
    (splitOnce separator afterVersion).bind fun (scheme, afterScheme) =>
      (splitOnce separator afterScheme).bind fun (id, blob) =>
        if String.ofList version ≠ envelopeVersion ∨ isToken (String.ofList scheme) = false ∨
            isToken (String.ofList id) = false ∨ blob = [] then none
        else some (String.ofList scheme,
          if String.ofList id = idAbsent then none else some (String.ofList id),
          String.ofList blob)

/-- What stands for an id in an envelope. -/
def idField : Option String → String
  | some id => if id = idAbsent then "" else id
  | none => idAbsent

/-- A separator in the scheme or in the id moves the fields: what stands before the first
two separators is read as both. -/
def Shifted (scheme : String) (id : Option String) : Prop :=
  ∃ first second rest, isToken first = true ∧ isToken second = true ∧
    scheme ++ "." ++ idField id = first ++ "." ++ second ++ "." ++ rest

theorem wrap_toList (scheme : String) (id : Option String) (blob : String) :
    (wrap scheme id blob).toList = envelopeVersion.toList ++ separator ::
      (scheme.toList ++ separator :: ((idField id).toList ++ separator :: blob.toList)) := by
  have dot : ".".toList = [separator] := rfl
  simp only [wrap, String.toList_append, dot, List.append_assoc, List.cons_append, List.nil_append]
  rfl

theorem isToken_clear {field : String} (token : isToken field = true) : separator ∉ field.toList := by
  intro member
  simp only [isToken, Bool.and_eq_true, List.all_eq_true] at token
  exact absurd (token.2 separator member) (by decide)

theorem isToken_nonempty {field : String} (token : isToken field = true) : field ≠ "" := by
  rintro rfl
  cases token

/-- What a reader accepts is a well-formed envelope and nothing else. -/
theorem unwrap_eq_some_iff {envelope scheme blob : String} {id : Option String} :
    unwrap envelope = some (scheme, id, blob) ↔
      ∃ field, isToken scheme = true ∧ isToken field = true ∧ blob ≠ "" ∧
        id = (if field = idAbsent then none else some field) ∧
        envelope.toList = envelopeVersion.toList ++ separator ::
          (scheme.toList ++ separator :: (field.toList ++ separator :: blob.toList)) := by
  constructor
  · intro read
    obtain ⟨⟨version, afterVersion⟩, first, read⟩ := Option.bind_eq_some_iff.mp read
    obtain ⟨⟨before, afterScheme⟩, second, read⟩ := Option.bind_eq_some_iff.mp read
    obtain ⟨⟨field, left⟩, third, read⟩ := Option.bind_eq_some_iff.mp read
    dsimp only at read second third
    split at read
    case isTrue => cases read
    case isFalse accepted =>
      obtain ⟨known, token, named, filled⟩ := by
        simpa only [not_or, ne_eq, not_not, Bool.not_eq_false] using accepted
      cases read
      refine ⟨String.ofList field, token, named, ?_, rfl, ?_⟩
      · intro empty
        exact filled (by simpa using congrArg String.toList empty)
      · rw [(splitOnce_eq_some_iff.mp first).1, (splitOnce_eq_some_iff.mp second).1,
          (splitOnce_eq_some_iff.mp third).1, ← known]
        simp only [String.toList_ofList]
  · rintro ⟨field, token, named, filled, rfl, shape⟩
    have version : separator ∉ envelopeVersion.toList := by decide
    have nonempty : blob.toList ≠ [] := fun empty =>
      filled (String.toList_inj.mp (empty.trans rfl))
    rw [unwrap, splitOnce_eq_some_iff.mpr ⟨shape, version⟩]
    simp only [Option.bind_some, splitOnce_append (isToken_clear token),
      splitOnce_append (isToken_clear named), String.ofList_toList, token, named,
      nonempty, ne_eq, not_true_eq_false, Bool.true_eq_false, or_self, if_false]

/-- What was read is what the same fields are wrapped into. -/
theorem wrap_of_unwrap {envelope scheme blob : String} {id : Option String}
    (read : unwrap envelope = some (scheme, id, blob)) : wrap scheme id blob = envelope := by
  obtain ⟨field, -, named, -, rfl, shape⟩ := unwrap_eq_some_iff.mp read
  apply String.toList_inj.mp
  rw [wrap_toList, shape]
  by_cases absent : field = idAbsent
  · rw [if_pos absent, absent]
    rfl
  · rw [if_neg absent, idField, if_neg absent]

theorem idField_token {id : Option String} (named : isToken (idField id) = true) :
    (if idField id = idAbsent then none else some (idField id)) = id := by
  cases id with
  | none => rfl
  | some id =>
    rw [idField] at named ⊢
    by_cases reserved : id = idAbsent
    · rw [if_pos reserved] at named
      exact absurd rfl (isToken_nonempty named)
    · rw [if_neg reserved, if_neg reserved]

theorem count_of_clear {text : List Char} (clear : separator ∉ text) : text.count separator = 0 :=
  List.count_eq_zero.mpr clear

/-- Fields read off a wrapped artifact are its own unless they were moved. -/
theorem fields_own_or_shifted {scheme other field blob otherBlob : String} {id : Option String}
    (token : isToken other = true) (named : isToken field = true)
    (same : scheme.toList ++ separator :: ((idField id).toList ++ separator :: blob.toList) =
      other.toList ++ separator :: (field.toList ++ separator :: otherBlob.toList)) :
    (scheme = other ∧ idField id = field ∧ blob = otherBlob) ∨ Shifted scheme id := by
  have dot : ".".toList = [separator] := rfl
  have count := count_of_clear (isToken_clear token)
  have fieldCount := count_of_clear (isToken_clear named)
  have cut : (scheme.toList ++ separator :: (idField id).toList) ++ separator :: blob.toList =
      (other.toList ++ separator :: field.toList) ++ separator :: otherBlob.toList := by
    simpa only [List.append_assoc, List.cons_append] using same
  rcases List.append_eq_append_iff.mp cut with ⟨between, longer, rest⟩ | ⟨between, longer, rest⟩
  · cases between with
    | nil =>
      left
      rw [List.append_nil] at longer
      have counts := congrArg (List.count separator) longer
      rw [List.count_append, List.count_append, List.count_cons_self, List.count_cons_self, count,
        fieldCount] at counts
      have clear : separator ∉ scheme.toList := List.count_eq_zero.mp (by omega)
      obtain ⟨schemes, fields⟩ := split_unique longer.symm clear (isToken_clear token)
      exact ⟨String.toList_inj.mp schemes, String.toList_inj.mp fields,
        String.toList_inj.mp (List.cons.inj rest).2⟩
    | cons first between =>
      exfalso
      obtain ⟨rfl, -⟩ := List.cons.inj rest
      have counts := congrArg (List.count separator) longer
      simp only [List.count_append, List.count_cons_self, count, fieldCount] at counts
      omega
  · cases between with
    | nil =>
      left
      rw [List.append_nil] at longer
      have counts := congrArg (List.count separator) longer
      rw [List.count_append, List.count_append, List.count_cons_self, List.count_cons_self, count,
        fieldCount] at counts
      have clear : separator ∉ scheme.toList := List.count_eq_zero.mp (by omega)
      obtain ⟨schemes, fields⟩ := split_unique longer clear (isToken_clear token)
      exact ⟨String.toList_inj.mp schemes, String.toList_inj.mp fields,
        String.toList_inj.mp (List.cons.inj rest).2.symm⟩
    | cons first between =>
      right
      obtain ⟨rfl, -⟩ := List.cons.inj rest
      refine ⟨other, field, String.ofList between, token, named, ?_⟩
      apply String.toList_inj.mp
      simp only [String.toList_append, dot, String.toList_ofList, List.append_assoc,
        List.cons_append, List.nil_append] at longer ⊢
      exact longer

/-- What comes back of a wrapped artifact is nothing or the artifact, unless its fields
were moved. -/
theorem unwrap_wrap_iff (scheme : String) (id : Option String) (blob : String) :
    (unwrap (wrap scheme id blob) = none ∨
        unwrap (wrap scheme id blob) = some (scheme, id, blob)) ↔ ¬ Shifted scheme id := by
  constructor
  · rintro outcome ⟨first, second, rest, token, named, moved⟩
    have dot : ".".toList = [separator] := rfl
    have shape := congrArg String.toList moved
    simp only [String.toList_append, dot, List.append_assoc, List.cons_append,
      List.nil_append] at shape
    have read : unwrap (wrap scheme id blob) =
        some (first, if second = idAbsent then none else some second, rest ++ "." ++ blob) := by
      apply unwrap_eq_some_iff.mpr
      refine ⟨second, token, named, ?_, rfl, ?_⟩
      · intro empty
        have length := congrArg (fun text => text.toList.length) empty
        simp only [String.toList_append, dot, List.length_append, List.length_cons] at length
        exact absurd length (by simp)
      · rw [wrap_toList]
        have longer := congrArg (fun text => text ++ separator :: blob.toList) shape
        simp only [List.append_assoc, List.cons_append] at longer
        simp only [String.toList_append, dot, List.append_assoc, List.cons_append,
          List.nil_append, longer]
    rw [read] at outcome
    rcases outcome with none | same
    · cases none
    · have blobs := congrArg (fun told => (told.map fun fields => fields.2.2.toList.length)) same
      simp only [Option.map_some, Option.some.injEq, String.toList_append, dot,
        List.length_append, List.length_cons] at blobs
      omega
  · intro unmoved
    cases read : unwrap (wrap scheme id blob) with
    | none => exact .inl rfl
    | some told =>
      right
      obtain ⟨other, otherId, otherBlob⟩ := told
      obtain ⟨field, token, named, -, rfl, shape⟩ := unwrap_eq_some_iff.mp read
      rw [wrap_toList] at shape
      have fields := (List.cons.inj (List.append_cancel_left shape)).2
      rcases fields_own_or_shifted token named fields with ⟨rfl, rfl, rfl⟩ | shifted
      · rw [idField_token named]
      · exact absurd shifted unmoved

theorem unwrap_wrap_token {scheme blob : String} {id : Option String}
    (token : isToken scheme = true)
    (named : ∀ given, id = some given → isToken given = true ∧ given ≠ idAbsent)
    (filled : blob ≠ "") : unwrap (wrap scheme id blob) = some (scheme, id, blob) := by
  have field : isToken (idField id) = true := by
    cases id with
    | none => rfl
    | some given =>
      rw [idField, if_neg (named given rfl).2]
      exact (named given rfl).1
  exact unwrap_eq_some_iff.mpr
    ⟨idField id, token, field, filled, (idField_token field).symm, wrap_toList ..⟩

/-- A field that is no token is never read back as itself. -/
theorem unwrap_wrap_broken {scheme : String} {id : Option String}
    (broken : isToken scheme = false ∨ ∃ given, id = some given ∧ isToken given = false)
    (blob : String) : unwrap (wrap scheme id blob) ≠ some (scheme, id, blob) := by
  intro read
  obtain ⟨field, token, named, -, same, -⟩ := unwrap_eq_some_iff.mp read
  rcases broken with scheme | ⟨given, rfl, unnamed⟩
  · rw [scheme] at token
    cases token
  · by_cases absent : field = idAbsent
    · rw [if_pos absent] at same
      cases same
    · rw [if_neg absent] at same
      cases same
      rw [unnamed] at named
      cases named

/-- An envelope is read as what was wrapped, or not at all, exactly where no separator in
the scheme or the id moves its fields; what is read is always what was wrapped. -/
theorem envelope_reads_iff (scheme : String) (id : Option String) (blob : String) :
    (((unwrap (wrap scheme id blob) = none ∨
          unwrap (wrap scheme id blob) = some (scheme, id, blob)) ∧
        ((isToken scheme = false ∨ ∃ given, id = some given ∧ isToken given = false) →
          unwrap (wrap scheme id blob) = none) ∧
        (isToken scheme = true →
          (∀ given, id = some given → isToken given = true ∧ given ≠ idAbsent) → blob ≠ "" →
            unwrap (wrap scheme id blob) = some (scheme, id, blob))) ↔ ¬ Shifted scheme id) ∧
      ∀ envelope, unwrap envelope = some (scheme, id, blob) → wrap scheme id blob = envelope := by
  refine ⟨?_, fun _ => wrap_of_unwrap⟩
  rw [← unwrap_wrap_iff scheme id blob]
  constructor
  · intro claimed
    exact claimed.1
  · intro outcome
    refine ⟨outcome, ?_, unwrap_wrap_token⟩
    intro broken
    exact outcome.resolve_right (unwrap_wrap_broken broken blob)

theorem envelope_reads_own :
    wrap "anthropic" (some "rs_1") "CAIS.x" = "rctl1.anthropic.rs_1.CAIS.x" := by
  apply (envelope_reads_iff "anthropic" (some "rs_1") "CAIS.x").2
  decide

/-- A separator in the scheme moves the id into the blob. -/
theorem separator_moves_fields :
    unwrap (wrap "a.b" (some "c") "d") = some ("a", some "b", "c.d") ∧
      ¬ (unwrap (wrap "a.b" (some "c") "d") = none ∨
        unwrap (wrap "a.b" (some "c") "d") = some ("a.b", some "c", "d")) := by
  decide

end Routectl.Schema
