import Routectl.Attempt.Strip

/-! What a strip leaves of a request: the removal is exact and settled, a refusal undoes it,
and a refusal is about the tool choice. -/
namespace Routectl.Attempt
open Library
open Routectl.Dispatch (Error)
open Routectl.ContextAnchor (ToolDef)
open Routectl.Filter (actionFor advisor contextManagement contextManagementBeta)

def namesTool (plans : List StripPlan) (tool : ToolDef) : Bool :=
  plans.any fun plan => plan.toolType.any fun toolType => toolMatchesType toolType tool

def namesToken (plans : List StripPlan) (token : String) : Bool :=
  plans.any fun plan => token ∈ plan.betaTokens

def namesKey (plans : List StripPlan) (key : String) : Bool :=
  plans.any fun plan => key ∈ plan.bodyKeys

def namesTools (plans : List StripPlan) : Bool := plans.any fun plan => plan.toolType.isSome

def withoutTools (plans : List StripPlan) (tools : Option (List ToolDef)) :
    Option (List ToolDef) :=
  if namesTools plans then
    dropEmpty (tools.map fun tools => tools.filter fun tool => !namesTool plans tool)
  else tools

def withoutKeys (plans : List StripPlan) : Option Json → Option Json
  | some (.object fields) => some (.object (fields.filter fun entry => !namesKey plans entry.1))
  | extras => extras

namespace ChatRequest

/-- The request with all the plans name gone and nothing else changed. -/
def without (req : ChatRequest) (plans : List StripPlan) : ChatRequest :=
  { req with
    tools := withoutTools plans req.tools
    anthropicBeta := req.anthropicBeta.filter fun token => !namesToken plans token
    providerExtras := withoutKeys plans req.providerExtras }

/-- The plans of the keys that have something to strip. -/
def matchedPlans (req : ChatRequest) (keys : List String) : List StripPlan :=
  (keys.filter req.wouldStrip).filterMap stripPlan

end ChatRequest

section Removal

theorem namesTool_cons (plan : StripPlan) (plans : List StripPlan) (tool : ToolDef) :
    namesTool (plan :: plans) tool = (namesTool [plan] tool || namesTool plans tool) := by
  simp [namesTool]

theorem namesTools_cons (plan : StripPlan) (plans : List StripPlan) :
    namesTools (plan :: plans) = (namesTools [plan] || namesTools plans) := by
  simp [namesTools]

theorem namesTool_of_namesTools {plans : List StripPlan} (none : namesTools plans = false)
    (tool : ToolDef) : namesTool plans tool = false := by
  simp only [namesTools, List.any_eq_false, Option.not_isSome_iff_eq_none, namesTool] at none ⊢
  intro plan held
  simp [none plan held]

theorem filter_unnamed {plans : List StripPlan} (none : namesTools plans = false)
    (tools : List ToolDef) : (tools.filter fun tool => !namesTool plans tool) = tools := by
  apply List.filter_eq_self.mpr
  intro tool _
  simp [namesTool_of_namesTools none]

theorem filter_cons (plan : StripPlan) (plans : List StripPlan) (tools : List ToolDef) :
    ((tools.filter fun tool => !namesTool [plan] tool).filter fun tool => !namesTool plans tool) =
      tools.filter fun tool => !namesTool (plan :: plans) tool := by
  rw [List.filter_filter]
  congr 1
  funext tool
  rw [namesTool_cons plan plans]
  cases namesTool [plan] tool <;> cases namesTool plans tool <;> rfl

theorem dropEmpty_filter (keep : ToolDef → Bool) (tools : Option (List ToolDef)) :
    dropEmpty ((dropEmpty tools).map fun tools => tools.filter keep) =
      dropEmpty (tools.map fun tools => tools.filter keep) := by
  cases tools with
  | none => rfl
  | some tools =>
    cases tools with
    | nil => rfl
    | cons tool rest => rfl

theorem withoutTools_cons (plan : StripPlan) (plans : List StripPlan)
    (tools : Option (List ToolDef)) :
    withoutTools plans (withoutTools [plan] tools) = withoutTools (plan :: plans) tools := by
  unfold withoutTools
  rw [namesTools_cons plan plans]
  cases here : namesTools [plan] with
  | false =>
    have others : ∀ tool, namesTool (plan :: plans) tool = namesTool plans tool := by
      intro tool
      rw [namesTool_cons plan plans, namesTool_of_namesTools here, Bool.false_or]
    simp only [Bool.false_or, others, Bool.false_eq_true, if_false]
  | true =>
    cases later : namesTools plans with
    | false =>
      have same : ∀ tool, namesTool (plan :: plans) tool = namesTool [plan] tool := by
        intro tool
        rw [namesTool_cons plan plans, namesTool_of_namesTools later, Bool.or_false]
      simp [same]
    | true =>
      simp only [Bool.or_true, if_true, dropEmpty_filter, Option.map_map, Function.comp_def,
        filter_cons]

theorem withoutKeys_cons (plan : StripPlan) (plans : List StripPlan) (extras : Option Json) :
    withoutKeys plans (withoutKeys [plan] extras) = withoutKeys (plan :: plans) extras := by
  cases extras with
  | none => rfl
  | some value =>
    cases value with
    | object fields =>
      simp only [withoutKeys, List.filter_filter]
      congr 3
      funext entry
      simp [namesKey, Bool.and_comm]
    | _ => rfl

namespace ChatRequest

theorem without_cons (req : ChatRequest) (plan : StripPlan) (plans : List StripPlan) :
    (req.without [plan]).without plans = req.without (plan :: plans) := by
  have beta : ((req.anthropicBeta.filter fun token => !namesToken [plan] token).filter
      fun token => !namesToken plans token) =
        req.anthropicBeta.filter fun token => !namesToken (plan :: plans) token := by
    rw [List.filter_filter]
    congr 1
    funext token
    simp [namesToken, Bool.and_comm]
  simp only [without, withoutTools_cons, withoutKeys_cons, beta]

theorem without_nil (req : ChatRequest) : req.without [] = req := by
  have tools : withoutTools [] req.tools = req.tools := by simp [withoutTools, namesTools]
  have extras : withoutKeys [] req.providerExtras = req.providerExtras := by
    cases req.providerExtras with
    | none => rfl
    | some value => cases value <;> simp [withoutKeys, namesKey]
  simp [without, tools, extras, namesToken]

theorem applyPlan_eq (req : ChatRequest) (plan : StripPlan) :
    req.applyPlan plan = req.without [plan] := by
  obtain ⟨toolType, betaTokens, bodyKeys⟩ := plan
  have tools : (req.applyPlan ⟨toolType, betaTokens, bodyKeys⟩).tools =
      withoutTools [⟨toolType, betaTokens, bodyKeys⟩] req.tools := by
    cases toolType with
    | none => simp [applyPlan, withoutTools, namesTools]
    | some toolType => simp [applyPlan, withoutTools, namesTools, namesTool]
  have beta : (req.applyPlan ⟨toolType, betaTokens, bodyKeys⟩).anthropicBeta =
      req.anthropicBeta.filter fun token =>
        !namesToken [⟨toolType, betaTokens, bodyKeys⟩] token := by
    cases betaTokens with
    | nil => simp [applyPlan, namesToken]
    | cons token rest => simp [applyPlan, namesToken]
  have extras : (req.applyPlan ⟨toolType, betaTokens, bodyKeys⟩).providerExtras =
      withoutKeys [⟨toolType, betaTokens, bodyKeys⟩] req.providerExtras := by
    have named : (if bodyKeys.isEmpty then req.providerExtras
        else removeKeys bodyKeys req.providerExtras) =
          withoutKeys [⟨toolType, betaTokens, bodyKeys⟩] req.providerExtras := by
      cases req.providerExtras with
      | none => cases bodyKeys <;> rfl
      | some value => cases bodyKeys <;> cases value <;> simp [removeKeys, withoutKeys, namesKey]
    exact named
  unfold without
  rw [← tools, ← beta, ← extras]
  rfl

theorem foldl_applyPlan (req : ChatRequest) (plans : List StripPlan) :
    plans.foldl applyPlan req = req.without plans := by
  induction plans generalizing req with
  | nil => exact (without_nil req).symm
  | cons plan rest ih => rw [List.foldl_cons, ih, applyPlan_eq, without_cons]

theorem restore_without (req : ChatRequest) (plans : List StripPlan) :
    (req.without plans).restore (req.capture (plans.any fun plan => plan.toolType.isSome)
      (plans.any fun plan => !plan.betaTokens.isEmpty)
      (plans.any fun plan => !plan.bodyKeys.isEmpty)) = req := by
  have tools : (plans.any fun plan => plan.toolType.isSome) = false →
      withoutTools plans req.tools = req.tools := by
    intro none
    have unnamed : namesTools plans = false := none
    simp [withoutTools, unnamed]
  have beta : (plans.any fun plan => !plan.betaTokens.isEmpty) = false →
      (req.anthropicBeta.filter fun token => !namesToken plans token) = req.anthropicBeta := by
    intro none
    apply List.filter_eq_self.mpr
    intro token _
    simp only [List.any_eq_false, Bool.not_eq_true', List.isEmpty_eq_false_iff, not_not] at none
    simp only [namesToken, Bool.not_eq_true', List.any_eq_false, decide_eq_true_eq]
    intro plan held named
    simp [none plan held] at named
  have extras : (plans.any fun plan => !plan.bodyKeys.isEmpty) = false →
      withoutKeys plans req.providerExtras = req.providerExtras := by
    intro none
    have unnamed : ∀ key, namesKey plans key = false := by
      intro key
      simp only [List.any_eq_false, Bool.not_eq_true', List.isEmpty_eq_false_iff, not_not] at none
      simp only [namesKey, List.any_eq_false, decide_eq_true_eq]
      intro plan held named
      simp [none plan held] at named
    cases req.providerExtras with
    | none => rfl
    | some value => cases value <;> simp [withoutKeys, unnamed]
  have each : ∀ (touched : Bool) {Field : Type} (before after : Field),
      (touched = false → after = before) →
        (if touched then some before else none).getD after = before := by
    intro touched Field before after untouched
    cases touched with
    | true => rfl
    | false => exact untouched rfl
  simp only [restore, capture, without]
  rw [each _ _ _ tools, each _ _ _ beta, each _ _ _ extras]

end ChatRequest
end Removal

section Matching

/-- A key the interceptor strips by a plan of its own. -/
def interceptable (key : String) : Bool :=
  match actionFor key with
  | .strip .toolParam => true
  | .strip .betaFlag => true
  | _ => false

namespace ChatRequest

def toolList (req : ChatRequest) : List ToolDef := req.tools.getD []

def bodyNames (req : ChatRequest) : List String :=
  match req.providerExtras with
  | some (.object fields) => fields.map Prod.fst
  | _ => []

theorem wouldStrip_iff (req : ChatRequest) (key : String) :
    req.wouldStrip key = true ↔
      interceptable key = true ∧ ∃ plan, stripPlan key = some plan ∧ req.planMatches plan = true := by
  unfold wouldStrip interceptable
  cases actionFor key with
  | routeAway => simp
  | strip kind => cases kind <;> cases stripPlan key <;> simp

theorem bodyContainsKey_iff (req : ChatRequest) (key : String) :
    req.bodyContainsKey key = true ↔ key ∈ req.bodyNames := by
  unfold bodyContainsKey bodyNames
  cases req.providerExtras with
  | none => simp
  | some value =>
    cases value with
    | object fields =>
      induction fields with
      | nil => simp
      | cons entry rest ih =>
        obtain ⟨name, held⟩ := entry
        simp only [List.lookup_cons, List.map_cons, List.mem_cons]
        by_cases same : key = name
        · simp [same]
        · simp [same, beq_eq_false_iff_ne.mpr same, ih]
    | _ => simp

theorem toolsContainsType_iff (req : ChatRequest) (toolType : String) :
    req.toolsContainsType toolType = true ↔
      ∃ tool ∈ req.toolList, toolMatchesType toolType tool = true := by
  unfold toolsContainsType toolList
  cases req.tools with
  | none => simp
  | some tools => simp

theorem planMatches_iff (req : ChatRequest) (plan : StripPlan) :
    req.planMatches plan = true ↔
      (∃ tool ∈ req.toolList, namesTool [plan] tool = true) ∨
      (∃ token ∈ req.anthropicBeta, namesToken [plan] token = true) ∨
      ∃ key ∈ req.bodyNames, namesKey [plan] key = true := by
  have tools : plan.toolType.any req.toolsContainsType = true ↔
      ∃ tool ∈ req.toolList, namesTool [plan] tool = true := by
    cases named : plan.toolType with
    | none => simp [namesTool, named]
    | some toolType => simp [namesTool, named, toolsContainsType_iff]
  have beta : (plan.betaTokens.any fun token => req.anthropicBeta.any (· == token)) = true ↔
      ∃ token ∈ req.anthropicBeta, namesToken [plan] token = true := by
    simp [namesToken, and_comm]
  have body : plan.bodyKeys.any req.bodyContainsKey = true ↔
      ∃ key ∈ req.bodyNames, namesKey [plan] key = true := by
    simp [namesKey, bodyContainsKey_iff, and_comm]
  unfold planMatches
  rw [Bool.or_eq_true, Bool.or_eq_true, tools, beta, body, or_assoc]

@[simp] theorem toolList_without (req : ChatRequest) (plans : List StripPlan) :
    (req.without plans).toolList = req.toolList.filter fun tool => !namesTool plans tool := by
  unfold toolList without withoutTools
  cases named : namesTools plans with
  | false => simp [filter_unnamed named]
  | true =>
    cases req.tools with
    | none => rfl
    | some tools =>
      simp only [if_true, Option.map_some, dropEmpty, Option.any_some, Option.getD_some]
      split
      · rename_i emptied
        exact (List.isEmpty_iff.mp emptied).symm
      · rfl

@[simp] theorem bodyNames_without (req : ChatRequest) (plans : List StripPlan) :
    (req.without plans).bodyNames = req.bodyNames.filter fun key => !namesKey plans key := by
  unfold bodyNames without
  cases req.providerExtras with
  | none => rfl
  | some value =>
    cases value with
    | object fields => simp [withoutKeys, List.filter_map, Function.comp_def]
    | _ => rfl

/-- A removal makes nothing match that did not before. -/
theorem planMatches_of_without {req : ChatRequest} {plans : List StripPlan} {plan : StripPlan}
    (matching : (req.without plans).planMatches plan = true) : req.planMatches plan = true := by
  rw [planMatches_iff] at matching ⊢
  rw [toolList_without, bodyNames_without] at matching
  obtain ⟨tool, held, named⟩ | ⟨token, held, named⟩ | ⟨key, held, named⟩ := matching
  · exact .inl ⟨tool, (List.mem_filter.mp held).1, named⟩
  · exact .inr (.inl ⟨token, (List.mem_filter.mp held).1, named⟩)
  · exact .inr (.inr ⟨key, (List.mem_filter.mp held).1, named⟩)

theorem not_planMatches_without (req : ChatRequest) {plans : List StripPlan} {plan : StripPlan}
    (applied : plan ∈ plans) : ¬ (req.without plans).planMatches plan = true := by
  rw [planMatches_iff, toolList_without, bodyNames_without]
  rintro (⟨tool, held, named⟩ | ⟨token, held, named⟩ | ⟨key, held, named⟩)
  · have kept := (List.mem_filter.mp held).2
    have gone : namesTool plans tool = true :=
      List.any_eq_true.mpr ⟨plan, applied, by simpa [namesTool] using named⟩
    simp [gone] at kept
  · have kept := (List.mem_filter.mp held).2
    have gone : namesToken plans token = true :=
      List.any_eq_true.mpr ⟨plan, applied, by simpa [namesToken] using named⟩
    simp [gone] at kept
  · have kept := (List.mem_filter.mp held).2
    have gone : namesKey plans key = true :=
      List.any_eq_true.mpr ⟨plan, applied, by simpa [namesKey] using named⟩
    simp [gone] at kept

/-- Nothing is left to strip under the same keys. -/
theorem wouldStrip_without (req : ChatRequest) {keys : List String} {key : String}
    (listed : key ∈ keys) : (req.without (req.matchedPlans keys)).wouldStrip key = false := by
  by_contra again
  obtain ⟨intercepted, plan, planned, matching⟩ :=
    (wouldStrip_iff _ key).mp (Bool.not_eq_false _ ▸ again)
  have before : req.wouldStrip key = true :=
    (wouldStrip_iff req key).mpr ⟨intercepted, plan, planned, planMatches_of_without matching⟩
  have applied : plan ∈ req.matchedPlans keys :=
    List.mem_filterMap.mpr ⟨key, List.mem_filter.mpr ⟨listed, before⟩, planned⟩
  exact not_planMatches_without req applied matching

end ChatRequest
end Matching

section Ordering

theorem sortedKeys_eq {keys others : List String} (same : ∀ key, key ∈ others ↔ key ∈ keys) :
    (others.insertionSort (· ≤ ·)).dedup = (keys.insertionSort (· ≤ ·)).dedup := by
  have sorted : ∀ keys : List String, ((keys.insertionSort (· ≤ ·)).dedup).Pairwise (· ≤ ·) :=
    fun keys => (List.pairwise_insertionSort (· ≤ ·) keys).sublist (List.dedup_sublist _)
  have perm : (others.insertionSort (· ≤ ·)).dedup.Perm (keys.insertionSort (· ≤ ·)).dedup := by
    apply (List.perm_ext_iff_of_nodup (List.nodup_dedup _) (List.nodup_dedup _)).mpr
    intro key
    simp only [List.mem_dedup, List.mem_insertionSort]
    exact same key
  exact perm.eq_of_pairwise (fun _ _ _ _ => le_antisymm) (sorted others) (sorted keys)

theorem without_congr (req : ChatRequest) {plans others : List StripPlan}
    (same : ∀ plan, plan ∈ others ↔ plan ∈ plans) : req.without others = req.without plans := by
  have any : ∀ test : StripPlan → Bool, others.any test = plans.any test := by
    intro test
    rw [Bool.eq_iff_iff, List.any_eq_true, List.any_eq_true]
    simp only [same]
  have touched : namesTools others = namesTools plans := any _
  have tool : namesTool others = namesTool plans := funext fun tool => any _
  have token : namesToken others = namesToken plans := funext fun token => any _
  have key : namesKey others = namesKey plans := funext fun key => any _
  have extras : withoutKeys others = withoutKeys plans := by
    funext value
    unfold withoutKeys
    rw [key]
  simp only [ChatRequest.without, withoutTools, touched, tool, token, extras]

theorem mem_matchedPlans_sorted (req : ChatRequest) (keys : List String) (plan : StripPlan) :
    plan ∈ req.matchedPlans (keys.insertionSort (· ≤ ·)).dedup ↔ plan ∈ req.matchedPlans keys := by
  simp [ChatRequest.matchedPlans, List.mem_filterMap, List.mem_filter]

end Ordering

section Choices
namespace ChatRequest

/-- The tool choice can be met by the tools of the request. -/
structure Satisfiable (req : ChatRequest) : Prop where
  forced : ∀ name, forcedToolName req.toolChoice = some name → req.toolsContainsName name = true
  mandatory : toolChoiceIsMandatory req.toolChoice = true → req.toolsAreEmpty = false

theorem toolsContainsName_iff (req : ChatRequest) (name : String) :
    req.toolsContainsName name = true ↔ ∃ tool ∈ req.toolList, toolName tool = some name := by
  unfold toolsContainsName toolList
  cases req.tools with
  | none => simp
  | some tools => simp

theorem toolsAreEmpty_iff (req : ChatRequest) : req.toolsAreEmpty = true ↔ req.toolList = [] := by
  unfold toolsAreEmpty toolList
  cases req.tools with
  | none => simp
  | some tools => simp

theorem Satisfiable.of_without {req : ChatRequest} {plans : List StripPlan}
    (after : (req.without plans).Satisfiable) : req.Satisfiable where
  forced := by
    intro name chosen
    obtain ⟨tool, held, named⟩ := (toolsContainsName_iff _ name).mp (after.forced name chosen)
    rw [toolList_without] at held
    exact (toolsContainsName_iff req name).mpr ⟨tool, (List.mem_filter.mp held).1, named⟩
  mandatory := by
    intro mandated
    have some := after.mandatory mandated
    by_contra empty
    have none := (toolsAreEmpty_iff req).mp (Bool.not_eq_false _ ▸ empty)
    have still := (toolsAreEmpty_iff (req.without plans)).mpr (by simp [none])
    simp [some] at still

theorem satisfiable_without_untouched {req : ChatRequest} {plans : List StripPlan}
    (untouched : namesTools plans = false) :
    (req.without plans).Satisfiable ↔ req.Satisfiable := by
  have same : (req.without plans).tools = req.tools := by simp [without, withoutTools, untouched]
  have choice : (req.without plans).toolChoice = req.toolChoice := rfl
  constructor
  · exact Satisfiable.of_without
  · intro before
    constructor
    · intro name chosen
      simpa [toolsContainsName, same] using before.forced name chosen
    · intro mandated
      simpa [toolsAreEmpty, same] using before.mandatory mandated

theorem validatePostStrip_ok_iff (req : ChatRequest) :
    req.validatePostStrip true = .ok () ↔ req.Satisfiable := by
  have forced : ((forcedToolName req.toolChoice).filter fun name => !req.toolsContainsName name) =
      none ↔ ∀ name, forcedToolName req.toolChoice = some name →
        req.toolsContainsName name = true := by
    simp [Option.filter_eq_none_iff]
  unfold validatePostStrip
  rw [if_pos rfl]
  cases missing : (forcedToolName req.toolChoice).filter fun name => !req.toolsContainsName name with
  | some name =>
    constructor
    · intro ok
      cases ok
    · intro satisfiable
      rw [forced.mpr satisfiable.forced] at missing
      cases missing
  | none =>
    have met := forced.mp missing
    by_cases hazard : (toolChoiceIsMandatory req.toolChoice && req.toolsAreEmpty) = true
    · simp only [hazard, if_true, reduceCtorEq, false_iff]
      intro satisfiable
      obtain ⟨mandated, empty⟩ := Bool.and_eq_true_iff.mp hazard
      simp [satisfiable.mandatory mandated] at empty
    · simp only [hazard, Bool.false_eq_true, if_false, true_iff]
      refine ⟨met, ?_⟩
      intro mandated
      simpa [mandated] using hazard

end ChatRequest
end Choices

section Interception
namespace ChatRequest

/-- All that an interception can come to. -/
inductive Intercepted (req : ChatRequest) (ctx : StripContext) : Prop where
  | nothing : (∀ key ∈ ctx.keys, req.wouldStrip key = false) →
      req.apply ctx = (.unchanged, req) → Intercepted req ctx
  | forbidden (error : Error) : ctx.strict = true →
      req.apply ctx = (.reject error, req) → Intercepted req ctx
  | hazard (error : Error) : ctx.strict = false → namesTools (req.matchedPlans ctx.keys) = true →
      ¬ (req.without (req.matchedPlans ctx.keys)).Satisfiable →
      req.apply ctx = (.reject error, req) → Intercepted req ctx
  | stripped : ctx.strict = false →
      (namesTools (req.matchedPlans ctx.keys) = true →
        (req.without (req.matchedPlans ctx.keys)).Satisfiable) →
      req.apply ctx = (.stripped, req.without (req.matchedPlans ctx.keys)) → Intercepted req ctx

theorem validatePostStrip_untouched (req : ChatRequest) : req.validatePostStrip false = .ok () := rfl

/-- The plans of the sorted keys act as those of the keys themselves. -/
theorem apply_eq_without (req : ChatRequest) (ctx : StripContext) : req.apply ctx =
    (let named := (ctx.keys.insertionSort (· ≤ ·)).dedup.filter req.wouldStrip
    if named.isEmpty then (.unchanged, req)
    else if ctx.strict then (.reject (strictForbids named), req)
    else
      match (req.without (req.matchedPlans ctx.keys)).validatePostStrip
          (namesTools (req.matchedPlans ctx.keys)) with
      | .error error => (.reject error, req)
      | .ok () => (.stripped, req.without (req.matchedPlans ctx.keys))) := by
  have same := without_congr req (mem_matchedPlans_sorted req ctx.keys)
  have touched : namesTools (req.matchedPlans (ctx.keys.insertionSort (· ≤ ·)).dedup) =
      namesTools (req.matchedPlans ctx.keys) := by
    rw [Bool.eq_iff_iff]
    simp only [namesTools, List.any_eq_true, mem_matchedPlans_sorted]
  rw [← same, ← touched]
  unfold apply
  simp only [foldl_applyPlan, restore_without]
  rfl

theorem intercepted (req : ChatRequest) (ctx : StripContext) : req.Intercepted ctx := by
  have applied := apply_eq_without req ctx
  by_cases empty : ((ctx.keys.insertionSort (· ≤ ·)).dedup.filter req.wouldStrip).isEmpty = true
  · apply Intercepted.nothing
    · intro key held
      have none := List.filter_eq_nil_iff.mp (List.isEmpty_iff.mp empty) key
        (by simpa using held)
      simpa using none
    · rw [applied]
      simp [empty]
  · cases strict : ctx.strict with
    | true =>
      apply Intercepted.forbidden _ strict
      rw [applied]
      simp only [empty, strict, Bool.false_eq_true, if_false, if_true]
      rfl
    | false =>
      have reached : req.apply ctx =
          match (req.without (req.matchedPlans ctx.keys)).validatePostStrip
            (namesTools (req.matchedPlans ctx.keys)) with
          | .error error => (.reject error, req)
          | .ok () => (.stripped, req.without (req.matchedPlans ctx.keys)) := by
        rw [applied]
        simp only [empty, strict, Bool.false_eq_true, if_false]
      cases tools : namesTools (req.matchedPlans ctx.keys) with
      | false =>
        rw [tools, validatePostStrip_untouched] at reached
        exact .stripped strict (by simp [tools]) reached
      | true =>
        rw [tools] at reached
        cases checked : (req.without (req.matchedPlans ctx.keys)).validatePostStrip true with
        | error error =>
          rw [checked] at reached
          refine .hazard error strict tools ?_ reached
          intro satisfiable
          rw [(validatePostStrip_ok_iff _).mpr satisfiable] at checked
          cases checked
        | ok =>
          rw [checked] at reached
          exact .stripped strict (fun _ => (validatePostStrip_ok_iff _).mp checked) reached

theorem apply_settled {req : ChatRequest} {ctx : StripContext}
    (nothing : ∀ key ∈ ctx.keys, req.wouldStrip key = false) :
    req.apply ctx = (.unchanged, req) := by
  have empty : ((ctx.keys.insertionSort (· ≤ ·)).dedup.filter req.wouldStrip) = [] := by
    apply List.filter_eq_nil_iff.mpr
    intro key held
    simp [nothing key (by simpa using held)]
  simp [apply, empty]

theorem apply_congr (req : ChatRequest) {ctx other : StripContext}
    (strict : other.strict = ctx.strict) (keys : ∀ key, key ∈ other.keys ↔ key ∈ ctx.keys) :
    req.apply other = req.apply ctx := by
  unfold apply
  rw [sortedKeys_eq keys, strict]

/-- A plan that removes a tool is the advisor's. -/
theorem namesTools_matchedPlans_iff (req : ChatRequest) (keys : List String) :
    namesTools (req.matchedPlans keys) = true ↔
      advisor ∈ keys ∧ req.toolsContainsType advisor = true := by
  have advisorPlan : stripPlan advisor = some { toolType := some advisor } := rfl
  have advisorMatches : req.planMatches { toolType := some advisor } =
      req.toolsContainsType advisor := by simp [planMatches]
  have advisorStrips : interceptable advisor = true := rfl
  simp only [namesTools, List.any_eq_true, matchedPlans, List.mem_filterMap, List.mem_filter]
  constructor
  · rintro ⟨plan, ⟨key, ⟨listed, strips⟩, planned⟩, removes⟩
    obtain ⟨_, other, otherPlanned, matching⟩ := (wouldStrip_iff req key).mp strips
    have isAdvisor : key = advisor := by
      by_contra different
      unfold stripPlan at planned
      rw [if_neg different] at planned
      split at planned
      · cases planned
        simp at removes
      · cases planned
    subst isAdvisor
    rw [advisorPlan] at otherPlanned
    cases otherPlanned
    exact ⟨listed, advisorMatches ▸ matching⟩
  · rintro ⟨listed, present⟩
    exact ⟨_, ⟨advisor, ⟨listed, (wouldStrip_iff req advisor).mpr
      ⟨advisorStrips, _, advisorPlan, advisorMatches ▸ present⟩⟩, advisorPlan⟩, rfl⟩

/-- A strip is atomic and exact, and refuses only what it broke itself. -/
structure Atomic (req : ChatRequest) (ctx : StripContext) : Prop where
  intact : (req.apply ctx).1 ≠ .stripped → (req.apply ctx).2 = req
  exact : (req.apply ctx).1 = .stripped →
    (req.apply ctx).2 = req.without (req.matchedPlans ctx.keys)
  orderFree : ∀ other : StripContext, other.strict = ctx.strict →
    (∀ key, key ∈ other.keys ↔ key ∈ ctx.keys) → req.apply other = req.apply ctx
  settled : (req.apply ctx).1 = .stripped →
    (req.apply ctx).2.apply ctx = (.unchanged, (req.apply ctx).2)
  hazards : ctx.strict = false → ((∃ error, (req.apply ctx).1 = .reject error) ↔
    req.Satisfiable ∧ ¬ (req.without (req.matchedPlans ctx.keys)).Satisfiable)

/-- The request's tool choice forces a tool it never had, and a tool is there to strip. -/
structure ForcesAbsentTool (req : ChatRequest) (ctx : StripContext) : Prop where
  lenient : ctx.strict = false
  listed : advisor ∈ ctx.keys
  present : req.toolsContainsType advisor = true
  absent : ∃ name, forcedToolName req.toolChoice = some name ∧ req.toolsContainsName name = false

/-- With a tool to strip, the choice was met before unless it forces an absent tool. -/
theorem satisfiable_iff_of_present {req : ChatRequest} {toolType : String}
    (present : req.toolsContainsType toolType = true) :
    req.Satisfiable ↔
      ¬ ∃ name, forcedToolName req.toolChoice = some name ∧ req.toolsContainsName name = false := by
  constructor
  · rintro satisfiable ⟨name, chosen, absent⟩
    simp [satisfiable.forced name chosen] at absent
  · intro none
    constructor
    · intro name chosen
      by_contra absent
      exact none ⟨name, chosen, Bool.not_eq_true _ ▸ absent⟩
    · intro _
      obtain ⟨tool, held, _⟩ := (toolsContainsType_iff req toolType).mp present
      by_contra empty
      rw [(toolsAreEmpty_iff req).mp (Bool.not_eq_false _ ▸ empty)] at held
      cases held

theorem strip_atomic_iff (req : ChatRequest) (ctx : StripContext) :
    req.Atomic ctx ↔ ¬ req.ForcesAbsentTool ctx := by
  constructor
  · rintro atomic ⟨lenient, listed, present, absent⟩
    have tools := (namesTools_matchedPlans_iff req ctx.keys).mpr ⟨listed, present⟩
    have before : ¬ req.Satisfiable :=
      fun satisfiable => (satisfiable_iff_of_present present).mp satisfiable absent
    have spared : ¬ ∃ error, (req.apply ctx).1 = .reject error :=
      fun refused => before ((atomic.hazards lenient).mp refused).1
    have after : ¬ (req.without (req.matchedPlans ctx.keys)).Satisfiable :=
      fun satisfiable => before satisfiable.of_without
    cases req.intercepted ctx with
    | nothing none applied =>
      obtain ⟨plan, held, _⟩ := List.any_eq_true.mp tools
      obtain ⟨key, strips, _⟩ := List.mem_filterMap.mp held
      have strips := List.mem_filter.mp strips
      simp [none key strips.1] at strips
    | forbidden error strict applied => simp [lenient] at strict
    | hazard error strict touched unsatisfiable applied => exact spared ⟨error, by rw [applied]⟩
    | stripped strict satisfiable applied => exact after (satisfiable tools)
  · intro sound
    have ordered : ∀ other : StripContext, other.strict = ctx.strict →
        (∀ key, key ∈ other.keys ↔ key ∈ ctx.keys) → req.apply other = req.apply ctx :=
      fun other strict keys => apply_congr req strict keys
    cases req.intercepted ctx with
    | nothing none applied =>
      have unmatched : req.without (req.matchedPlans ctx.keys) = req := by
        have noPlans : req.matchedPlans ctx.keys = [] := by
          have noKeys : ctx.keys.filter req.wouldStrip = [] :=
            List.filter_eq_nil_iff.mpr fun key held => by simp [none key held]
          simp [matchedPlans, noKeys]
        rw [noPlans, without_nil]
      refine ⟨fun _ => by rw [applied], ?_, ordered, ?_, ?_⟩
      · intro stripped
        simp [applied] at stripped
      · intro stripped
        simp [applied] at stripped
      · intro _
        rw [unmatched]
        simp [applied]
    | forbidden error strict applied =>
      refine ⟨fun _ => by rw [applied], ?_, ordered, ?_, ?_⟩
      · intro stripped
        simp [applied] at stripped
      · intro stripped
        simp [applied] at stripped
      · intro lenient
        simp [lenient] at strict
    | hazard error strict touched unsatisfiable applied =>
      refine ⟨fun _ => by rw [applied], ?_, ordered, ?_, ?_⟩
      · intro stripped
        simp [applied] at stripped
      · intro stripped
        simp [applied] at stripped
      · intro _
        obtain ⟨listed, present⟩ := (namesTools_matchedPlans_iff req ctx.keys).mp touched
        have before : req.Satisfiable := (satisfiable_iff_of_present present).mpr
          fun absent => sound ⟨strict, listed, present, absent⟩
        rw [applied]
        exact ⟨fun _ => ⟨before, unsatisfiable⟩, fun _ => ⟨error, rfl⟩⟩
    | stripped strict satisfiable applied =>
      refine ⟨?_, fun _ => by rw [applied], ordered, ?_, ?_⟩
      · intro unstripped
        simp [applied] at unstripped
      · intro _
        rw [applied]
        exact apply_settled fun key held => wouldStrip_without req held
      · intro _
        rw [applied]
        constructor
        · rintro ⟨error, refused⟩
          cases refused
        · rintro ⟨before, unsatisfiable⟩
          cases tools : namesTools (req.matchedPlans ctx.keys) with
          | false => exact (unsatisfiable ((satisfiable_without_untouched tools).mpr before)).elim
          | true => exact (unsatisfiable (satisfiable tools)).elim

def misforced : ChatRequest :=
  { model := "claude"
    tools := some [.other (.object [("type", .string "advisor_20260301"),
      ("name", .string "advisor")])]
    toolChoice := some (.object [("type", .string "tool"), ("name", .string "search")]) }

/-- The forced tool was missing before the strip, which is refused all the same. -/
theorem misforced_is_refused :
    (misforced.apply { keys := ["advisor"] }).1 = .reject (forcedRemoved "search") ∧
    misforced.toolsContainsName "search" = false ∧ ¬ misforced.Atomic { keys := ["advisor"] } := by
  have refused : (misforced.apply { keys := ["advisor"] }).1 = .reject (forcedRemoved "search") := by
    decide +kernel
  have absent : misforced.toolsContainsName "search" = false := by decide +kernel
  refine ⟨refused, absent, ?_⟩
  intro atomic
  have before := ((atomic.hazards rfl).mp ⟨_, refused⟩).1
  have present := before.forced "search" rfl
  simp [absent] at present

end ChatRequest
end Interception
end Routectl.Attempt
