import Routectl.Trim.Request

/-! The cache breakpoints of a request in prefix order, and the check that a long lifetime
does not come after a short one. -/
namespace Routectl.Cache
open Routectl.Trim (CacheControl ContentPart KnownContentPart Message MessageContent)

def effectiveTtl (control : CacheControl) : String := control.ttl.getD "5m"

def maxBreakpoints : Nat := 4

inductive BreakpointPosition where
  | tools
  | system
  | messages
  | topLevel
deriving Repr, DecidableEq

def BreakpointPosition.shown : BreakpointPosition → String
  | .tools => "Tools"
  | .system => "System"
  | .messages => "Messages"
  | .topLevel => "TopLevel"

structure Breakpoint where
  position : BreakpointPosition
  control : CacheControl

def Breakpoint.ttl (breakpoint : Breakpoint) : String := effectiveTtl breakpoint.control

def tooMany (count : Nat) : String :=
  "cache_control: " ++ toString count ++ " breakpoints exceeds maximum of " ++
    toString maxBreakpoints

def longAfterShort (position : BreakpointPosition) : String :=
  "cache_control: 1h TTL breakpoint at " ++ position.shown ++ " appears after a 5m " ++
    "breakpoint; longer TTLs must come before shorter ones in " ++ "cache prefix order"

/-- The walk, which remembers of the breakpoints behind it only the last. -/
def validateFrom : Bool → List Breakpoint → Except String Unit
  | _, [] => .ok ()
  | lastTtlWas5m, breakpoint :: rest =>
    if lastTtlWas5m = true ∧ breakpoint.ttl = "1h" then .error (longAfterShort breakpoint.position)
    else validateFrom (breakpoint.ttl = "5m") rest

def validate (breakpoints : List Breakpoint) : Except String Unit :=
  if maxBreakpoints < breakpoints.length then .error (tooMany breakpoints.length)
  else validateFrom false breakpoints

section Sources

def KnownContentPart.cacheControl : KnownContentPart → Option CacheControl
  | .text _ _ control => control
  | .image _ control => control
  | .imageUrl _ control => control
  | .file _ control => control
  | .document _ _ _ control => control
  | .toolUse _ _ _ control => control
  | .toolResult _ _ _ control => control
  | .thinking _ _ => none
  | .redactedThinking _ => none

def partControl : ContentPart → Option CacheControl
  | .known part => KnownContentPart.cacheControl part
  | .other _ control _ => control

def messageControls (message : Message) : List CacheControl :=
  match message.content with
  | .parts parts => parts.filterMap partControl
  | _ => []

/-- A request as far as its markers go: a tool or a block of the system prompt is the
marker it carries. -/
structure Marked where
  tools : List (Option CacheControl) := []
  system : List (Option CacheControl) := []
  messages : List Message := []
  topLevel : Option CacheControl := none

/-- The markers in prefix order. -/
def Marked.cacheBreakpoints (request : Marked) : List Breakpoint :=
  (request.tools.filterMap id).map (Breakpoint.mk .tools) ++
    (request.system.filterMap id).map (Breakpoint.mk .system) ++
    (request.messages.flatMap messageControls).map (Breakpoint.mk .messages) ++
    request.topLevel.toList.map (Breakpoint.mk .topLevel)

def Marked.validateSource (request : Marked) : Except String Unit :=
  validate request.cacheBreakpoints

end Sources

/-- No long lifetime anywhere after a short one. -/
def Ordered (breakpoints : List Breakpoint) : Prop :=
  breakpoints.Pairwise fun earlier later => ¬ (earlier.ttl = "5m" ∧ later.ttl = "1h")

def Rule (breakpoints : List Breakpoint) : Prop :=
  breakpoints.length ≤ maxBreakpoints ∧ Ordered breakpoints

/-- A long lifetime stands directly after a short one. -/
def Touching (breakpoints : List Breakpoint) : Prop :=
  ∃ before short long after,
    breakpoints = before ++ short :: long :: after ∧ short.ttl = "5m" ∧ long.ttl = "1h"

/-- No lifetime but these two. -/
def Recognized (breakpoint : Breakpoint) : Prop := breakpoint.ttl = "5m" ∨ breakpoint.ttl = "1h"

/-- There are too many, or the lifetimes are in order, or a long one stands directly after
a short one. -/
def Plain (breakpoints : List Breakpoint) : Prop :=
  maxBreakpoints < breakpoints.length ∨ Ordered breakpoints ∨ Touching breakpoints

theorem touching_cons (first : Breakpoint) (rest : List Breakpoint) :
    Touching (first :: rest) ↔
      (first.ttl = "5m" ∧ ∃ long after, rest = long :: after ∧ long.ttl = "1h") ∨ Touching rest := by
  constructor
  · rintro ⟨before, short, long, after, split, brief, lasting⟩
    cases before with
    | nil =>
      obtain ⟨rfl, rfl⟩ := List.cons.inj split
      exact .inl ⟨brief, long, after, rfl, lasting⟩
    | cons _ before =>
      obtain ⟨-, rfl⟩ := List.cons.inj split
      exact .inr ⟨before, short, long, after, rfl, brief, lasting⟩
  · rintro (⟨brief, long, after, rfl, lasting⟩ | ⟨before, short, long, after, rfl, brief, lasting⟩)
    · exact ⟨[], first, long, after, rfl, brief, lasting⟩
    · exact ⟨first :: before, short, long, after, rfl, brief, lasting⟩

/-- The walk refuses where the two lifetimes touch. -/
theorem validateFrom_ok_iff (lastTtlWas5m : Bool) (breakpoints : List Breakpoint) :
    validateFrom lastTtlWas5m breakpoints = .ok () ↔
      ¬ (lastTtlWas5m = true ∧ ∃ long after, breakpoints = long :: after ∧ long.ttl = "1h") ∧
        ¬ Touching breakpoints := by
  induction breakpoints generalizing lastTtlWas5m with
  | nil =>
    refine iff_of_true rfl ⟨?_, ?_⟩
    · rintro ⟨-, _, _, absent, -⟩
      cases absent
    · rintro ⟨before, _, _, _, absent, -⟩
      cases before <;> cases absent
  | cons first rest ih =>
    rw [validateFrom]
    split
    case isTrue refused =>
      refine iff_of_false nofun ?_
      rintro ⟨free, -⟩
      exact free ⟨refused.1, first, rest, rfl, refused.2⟩
    case isFalse passed =>
      rw [ih, touching_cons, not_or, decide_eq_true_iff]
      constructor
      · rintro ⟨clear, apart⟩
        refine ⟨?_, clear, apart⟩
        rintro ⟨last, long, after, split, lasting⟩
        obtain ⟨rfl, -⟩ := List.cons.inj split
        exact passed ⟨last, lasting⟩
      · rintro ⟨-, clear, apart⟩
        exact ⟨clear, apart⟩

theorem validate_ok_iff (breakpoints : List Breakpoint) :
    validate breakpoints = .ok () ↔
      breakpoints.length ≤ maxBreakpoints ∧ ¬ Touching breakpoints := by
  rw [validate]
  split
  case isTrue many => exact iff_of_false nofun fun fits => Nat.not_le.mpr many fits.1
  case isFalse few =>
    rw [validateFrom_ok_iff]
    exact ⟨fun walked => ⟨Nat.not_lt.mp few, walked.2⟩, fun fits => ⟨nofun, fits.2⟩⟩

theorem not_ordered_of_after {before between after : List Breakpoint} {short long : Breakpoint}
    (brief : short.ttl = "5m") (lasting : long.ttl = "1h") :
    ¬ Ordered (before ++ short :: (between ++ long :: after)) := by
  intro ordered
  have tail := (List.pairwise_append.mp ordered).2.1
  exact List.rel_of_pairwise_cons tail (List.mem_append_right _ (List.mem_cons_self ..))
    ⟨brief, lasting⟩

theorem not_ordered_of_touching {breakpoints : List Breakpoint} (touching : Touching breakpoints) :
    ¬ Ordered breakpoints := by
  obtain ⟨before, short, long, after, rfl, brief, lasting⟩ := touching
  exact @not_ordered_of_after before [] after short long brief lasting

/-- The check is its rule exactly for plain breakpoints. -/
theorem validate_iff_rule (breakpoints : List Breakpoint) :
    (validate breakpoints = .ok () ↔ Rule breakpoints) ↔ Plain breakpoints := by
  rw [validate_ok_iff, Rule, Plain]
  constructor
  · intro same
    by_cases few : breakpoints.length ≤ maxBreakpoints
    · by_cases touching : Touching breakpoints
      · exact .inr (.inr touching)
      · exact .inr (.inl (same.mp ⟨few, touching⟩).2)
    · exact .inl (Nat.not_le.mp few)
  · rintro (many | ordered | touching)
    · exact iff_of_false (fun fits => Nat.not_le.mpr many fits.1) fun rule =>
        Nat.not_le.mpr many rule.1
    · exact ⟨fun fits => ⟨fits.1, ordered⟩,
        fun rule => ⟨rule.1, fun touching => not_ordered_of_touching touching ordered⟩⟩
    · exact iff_of_false (fun fits => fits.2 touching) fun rule =>
        not_ordered_of_touching touching rule.2

/-- Whatever is put in, a pair out of order stays out of order. -/
theorem not_ordered_of_inserted {before others after : List Breakpoint}
    (unordered : ¬ Ordered (before ++ after)) : ¬ Ordered (before ++ others ++ after) := by
  intro ordered
  apply unordered
  apply List.Pairwise.sublist _ ordered
  rw [List.append_assoc]
  exact (List.Sublist.refl before).append (List.sublist_append_right others after)

/-- The check follows its rule exactly for plain breakpoints, and a refused order stays
refused under lifetimes put between exactly where it is plain still. -/
theorem breakpoints_checked_iff (breakpoints : List Breakpoint) :
    ((validate breakpoints = .ok () ↔ Rule breakpoints) ↔ Plain breakpoints) ∧
      ∀ before others after, (before ++ others ++ after).length ≤ maxBreakpoints →
        (∀ breakpoint ∈ others, ¬ Recognized breakpoint) → validate (before ++ after) ≠ .ok () →
          (validate (before ++ others ++ after) ≠ .ok () ↔ Plain (before ++ others ++ after)) := by
  refine ⟨validate_iff_rule breakpoints, ?_⟩
  intro before others after few unknown refused
  have shorter : (before ++ after).length ≤ maxBreakpoints := by
    simp only [List.length_append] at few ⊢
    omega
  have touched : Touching (before ++ after) := by
    by_contra apart
    exact refused ((validate_ok_iff _).mpr ⟨shorter, apart⟩)
  have unordered : ¬ Rule (before ++ others ++ after) := fun rule =>
    not_ordered_of_inserted (not_ordered_of_touching touched) rule.2
  rw [← validate_iff_rule]
  exact ⟨fun still => iff_of_false still unordered, fun same passed => unordered (same.mp passed)⟩

def lasting (ttl : String) : Breakpoint := ⟨.messages, "ephemeral", some ttl⟩

theorem breakpoints_checked_adjacent :
    validate [lasting "5m", lasting "1h", lasting "2h"] ≠ .ok () := by
  have touching : Touching ([lasting "5m", lasting "1h"] ++ [lasting "2h"] ++ []) :=
    ⟨[], lasting "5m", lasting "1h", [lasting "2h"], rfl, rfl, rfl⟩
  apply ((breakpoints_checked_iff []).2 [lasting "5m", lasting "1h"] [lasting "2h"] [] (by decide) ?_
    nofun).mpr
  · exact .inr (.inr touching)
  · intro breakpoint member known
    rw [List.mem_singleton.mp member] at known
    exact absurd known (by unfold Recognized; decide)

/-- A lifetime the check does not know lets a long one follow a short one. -/
theorem unknown_lifetime_hides_order :
    validate [lasting "5m", lasting "1h"] ≠ .ok () ∧
      ¬ Recognized (lasting "10m") ∧
      validate [lasting "5m", lasting "10m", lasting "1h"] = .ok () ∧
      ¬ Rule [lasting "5m", lasting "10m", lasting "1h"] := by
  refine ⟨nofun, ?_, rfl, ?_⟩
  · unfold Recognized
    decide
  · rintro ⟨-, ordered⟩
    exact @not_ordered_of_after [] [lasting "10m"] [] (lasting "5m") (lasting "1h") rfl rfl ordered

end Routectl.Cache
