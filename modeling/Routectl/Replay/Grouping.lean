import Routectl.Replay.Conversation

/-! What becomes of the reasoning of one turn on its way out: a group for every id, in the
order the ids came, with the first signature met as its own. -/
namespace Routectl.Replay
open Library Schema
open Routectl.ResponsesApi (AuthKind)

def ReasoningContentItem.sealed : ReasoningContentItem → Option String
  | .reasoningText _ => none
  | .reasoningEncrypted encryptedContent => some encryptedContent

/-- A reasoning item as it is told: its first signature leaves the contents, and without one
there is no item. -/
def resealed : ConversationItem → Option ConversationItem
  | .reasoning id summary content encryptedContent =>
    let entries := content ++ [ReasoningContentItem.reasoningEncrypted encryptedContent]
    let first := (entries.findSome? ReasoningContentItem.sealed).getD ""
    if first = "" then none
    else some (.reasoning id summary (entries.eraseP fun entry => !entry.isText) first)
  | other => some other

theorem resealed_place {said kept : ConversationItem} (keeps : resealed said = some kept) :
    place kept = place said := by
  cases said with
  | reasoning id summary content encryptedContent =>
    unfold resealed at keeps
    dsimp only at keeps
    split at keeps
    case isTrue => cases keeps
    case isFalse =>
      cases keeps
      rfl
  | message role texts => exact Option.some.inj keeps ▸ rfl
  | functionCall callId name arguments => exact Option.some.inj keeps ▸ rfl
  | functionCallOutput callId output => exact Option.some.inj keeps ▸ rfl

section Sealing
/-- A signature at the end takes the place of the first one exactly where that one stands
after all texts and they are all the same. -/
theorem erase_sealed_iff (content : List ReasoningContentItem) (encryptedContent : String) :
    ((content ++ [ReasoningContentItem.reasoningEncrypted encryptedContent]).findSome?
        ReasoningContentItem.sealed = some encryptedContent ∧
      (content ++ [ReasoningContentItem.reasoningEncrypted encryptedContent]).eraseP
        (fun entry => !entry.isText) = content) ↔
      ∀ entry ∈ content.dropWhile ReasoningContentItem.isText,
        entry = .reasoningEncrypted encryptedContent := by
  induction content with
  | nil => simp [ReasoningContentItem.sealed, ReasoningContentItem.isText]
  | cons entry rest ih =>
    cases entry with
    | reasoningText text =>
      have erased : (ReasoningContentItem.reasoningText text :: rest ++
          [ReasoningContentItem.reasoningEncrypted encryptedContent]).eraseP
            (fun entry => !entry.isText) =
          .reasoningText text :: (rest ++
            [ReasoningContentItem.reasoningEncrypted encryptedContent]).eraseP
              (fun entry => !entry.isText) := rfl
      rw [erased, List.cons_inj_right]
      exact ih
    | reasoningEncrypted first =>
      have found : (ReasoningContentItem.reasoningEncrypted first :: rest ++
          [ReasoningContentItem.reasoningEncrypted encryptedContent]).findSome?
            ReasoningContentItem.sealed = some first := rfl
      have erased : (ReasoningContentItem.reasoningEncrypted first :: rest ++
          [ReasoningContentItem.reasoningEncrypted encryptedContent]).eraseP
            (fun entry => !entry.isText) =
          rest ++ [.reasoningEncrypted encryptedContent] := rfl
      have kept : (ReasoningContentItem.reasoningEncrypted first :: rest).dropWhile
          ReasoningContentItem.isText = .reasoningEncrypted first :: rest := rfl
      rw [found, erased, kept, List.forall_mem_cons, Option.some.injEq,
        ReasoningContentItem.reasoningEncrypted.injEq]
      constructor
      · rintro ⟨rfl, same⟩
        exact ⟨rfl, append_singleton_eq_cons_iff.mp same⟩
      · rintro ⟨rfl, each⟩
        exact ⟨rfl, append_singleton_eq_cons_iff.mpr each⟩

theorem resealed_eq_iff {said : ConversationItem}
    (signed : ∀ id summary content, said ≠ .reasoning id summary content "") :
    resealed said = some said ↔ SealedLast said := by
  cases said with
  | reasoning id summary content encryptedContent =>
    have nonempty : encryptedContent ≠ "" := by
      rintro rfl
      exact signed id summary content rfl
    unfold SealedLast
    dsimp only
    rw [← erase_sealed_iff content encryptedContent]
    unfold resealed
    dsimp only
    cases first : (content ++
        [ReasoningContentItem.reasoningEncrypted encryptedContent]).findSome?
          ReasoningContentItem.sealed with
    | none => simp
    | some found =>
      by_cases same : found = encryptedContent
      · subst same
        simp [nonempty]
      · by_cases empty : found = ""
        · simp [empty, Ne.symm nonempty]
        · simp [empty, same]
  | message role texts => exact iff_of_true rfl trivial
  | functionCall callId name arguments => exact iff_of_true rfl trivial
  | functionCallOutput callId output => exact iff_of_true rfl trivial

end Sealing

section Bucketing
variable {key : Option String} {groups : ReasoningGroups} {group : ReasoningGroup}
variable {details : List ReasoningDetail}

/-- Details of the last group's id go to that group. -/
theorem bucket_last (absent : key ∉ groups.map Prod.fst)
    (own : ∀ detail ∈ details, detail.id = key) :
    details.foldl bucket (groups ++ [(key, group)]) =
      groups ++ [(key, details.foldl ReasoningGroup.add group)] := by
  have one : ∀ (groups : ReasoningGroups) (group : ReasoningGroup) (detail : ReasoningDetail),
      key ∉ groups.map Prod.fst → detail.id = key →
      bucket (groups ++ [(key, group)]) detail = groups ++ [(key, group.add detail)] := by
    intro groups group detail absent own
    induction groups with
    | nil => simp [bucket, own]
    | cons first rest ih =>
      obtain ⟨other, held⟩ := first
      rw [List.map_cons, List.mem_cons, not_or] at absent
      have different : other ≠ detail.id := fun same => absent.1 (own ▸ same.symm)
      simp only [List.cons_append, bucket, if_neg different, ih absent.2]
  induction details generalizing group with
  | nil => rfl
  | cons detail rest ih =>
    rw [List.foldl_cons, one groups group detail absent (own detail List.mem_cons_self), ih]
    · rfl
    · exact fun other member => own other (List.mem_cons_of_mem _ member)

/-- Details of a new id make a group of their own. -/
theorem bucket_new (absent : key ∉ groups.map Prod.fst)
    (own : ∀ detail ∈ details, detail.id = key) (filled : details ≠ []) :
    details.foldl bucket groups = groups ++ [(key, details.foldl ReasoningGroup.add {})] := by
  have opens : ∀ (groups : ReasoningGroups) (detail : ReasoningDetail),
      key ∉ groups.map Prod.fst → detail.id = key →
      bucket groups detail = groups ++ [(key, ReasoningGroup.add {} detail)] := by
    intro groups detail absent own
    induction groups with
    | nil => simp [bucket, own]
    | cons first rest ih =>
      obtain ⟨other, held⟩ := first
      rw [List.map_cons, List.mem_cons, not_or] at absent
      have different : other ≠ detail.id := fun same => absent.1 (own ▸ same.symm)
      simp only [List.cons_append, bucket, if_neg different, ih absent.2]
  cases details with
  | nil => exact absurd rfl filled
  | cons detail rest =>
    rw [List.foldl_cons, opens groups detail absent (own detail List.mem_cons_self),
      bucket_last absent fun other member => own other (List.mem_cons_of_mem _ member)]
    rfl

theorem add_summaries (id : String) (summary : List ReasoningSummaryItem)
    (group : ReasoningGroup) :
    (summary.map (summaryDetail id)).foldl ReasoningGroup.add group =
      { group with summary := group.summary ++ summary } := by
  induction summary generalizing group with
  | nil => simp
  | cons entry rest ih =>
    obtain ⟨text⟩ := entry
    rw [List.map_cons, List.foldl_cons, ih]
    simp [summaryDetail, reasoningDetail, ReasoningGroup.add, payloadString, stringField,
      Json.field, Json.asStr]

theorem add_text (id text : String) (group : ReasoningGroup) :
    group.add (contentDetail id (.reasoningText text)) =
      { group with content := group.content ++ [.reasoningText text] } := by
  simp [contentDetail, reasoningDetail, ReasoningGroup.add, payloadString, stringField,
    Json.field, Json.asStr]

theorem add_encrypted (id encryptedContent : String) (group : ReasoningGroup) :
    group.add (contentDetail id (.reasoningEncrypted encryptedContent)) =
      match group.encryptedContent with
      | none => { group with encryptedContent := some encryptedContent }
      | some _ =>
        { group with content := group.content ++ [.reasoningEncrypted encryptedContent] } := by
  cases held : group.encryptedContent with
  | none =>
    simp [contentDetail, reasoningDetail, ReasoningGroup.add, payloadString, stringField,
      Json.field, Json.asStr, held]
  | some first =>
    simp [contentDetail, reasoningDetail, ReasoningGroup.add, payloadString, stringField,
      Json.field, Json.asStr, held]

theorem add_signed (id : String) (content : List ReasoningContentItem) (group : ReasoningGroup)
    {first : String} (signed : group.encryptedContent = some first) :
    (content.map (contentDetail id)).foldl ReasoningGroup.add group =
      { group with content := group.content ++ content } := by
  induction content generalizing group with
  | nil => simp
  | cons entry rest ih =>
    have goesOn := ih { group with content := group.content ++ [entry] } signed
    rw [List.map_cons, List.foldl_cons]
    cases entry with
    | reasoningText text =>
      rw [add_text, goesOn]
      simp
    | reasoningEncrypted encryptedContent =>
      rw [add_encrypted, signed]
      rw [signed] at goesOn
      rw [goesOn]
      simp

/-- The first signature met becomes the group's own. -/
theorem add_contents (id : String) (content : List ReasoningContentItem) (group : ReasoningGroup)
    (unsigned : group.encryptedContent = none) :
    (content.map (contentDetail id)).foldl ReasoningGroup.add group =
      { group with
        content := group.content ++ content.eraseP fun entry => !entry.isText
        encryptedContent := content.findSome? ReasoningContentItem.sealed } := by
  induction content generalizing group with
  | nil =>
    obtain ⟨summary, content, encryptedContent⟩ := group
    cases unsigned
    simp
  | cons entry rest ih =>
    rw [List.map_cons, List.foldl_cons]
    cases entry with
    | reasoningText text =>
      have goesOn := ih { group with content := group.content ++ [.reasoningText text] } unsigned
      rw [add_text, goesOn]
      simp [ReasoningContentItem.isText, ReasoningContentItem.sealed, List.findSome?_cons]
    | reasoningEncrypted encryptedContent =>
      have goesOn := add_signed id rest
        { group with encryptedContent := some encryptedContent } rfl
      rw [add_encrypted, unsigned]
      rw [goesOn]
      simp [ReasoningContentItem.isText, ReasoningContentItem.sealed, List.findSome?_cons]

/-- The group that a reasoning item makes. -/
def groupOf : ConversationItem → Option (Option String × ReasoningGroup)
  | .reasoning id summary content encryptedContent =>
    let entries := content ++ [ReasoningContentItem.reasoningEncrypted encryptedContent]
    some (some id,
      { summary
        content := entries.eraseP fun entry => !entry.isText
        encryptedContent := entries.findSome? ReasoningContentItem.sealed })
  | _ => none

theorem detailsOf_id {id encryptedContent : String} {summary : List ReasoningSummaryItem}
    {content : List ReasoningContentItem} :
    ∀ detail ∈ detailsOf (.reasoning id summary content encryptedContent),
      detail.id = some id := by
  intro detail member
  rcases List.mem_append.mp member with surface | surface
  · obtain ⟨⟨text⟩, _, rfl⟩ := List.mem_map.mp surface
    rfl
  · obtain ⟨entry, _, rfl⟩ := List.mem_map.mp surface
    cases entry with
    | reasoningText text => rfl
    | reasoningEncrypted sealed => rfl

theorem detailsOf_format (said : ConversationItem) :
    ∀ detail ∈ detailsOf said, detail.format = some openaiResponsesV1 := by
  intro detail member
  cases said with
  | reasoning id summary content encryptedContent =>
    rcases List.mem_append.mp member with surface | surface
    · obtain ⟨⟨text⟩, _, rfl⟩ := List.mem_map.mp surface
      rfl
    · obtain ⟨entry, _, rfl⟩ := List.mem_map.mp surface
      cases entry with
      | reasoningText text => rfl
      | reasoningEncrypted sealed => rfl
  | message role texts => cases member
  | functionCall callId name arguments => cases member
  | functionCallOutput callId output => cases member

/-- The tag of the ingress is refused by no lane. -/
theorem participates_all (authKind : AuthKind) (leads : List ConversationItem) :
    (leads.flatMap detailsOf).filter (participates authKind) = leads.flatMap detailsOf := by
  apply List.filter_eq_self.mpr
  intro detail member
  obtain ⟨said, _, own⟩ := List.mem_flatMap.mp member
  unfold participates
  rw [detailsOf_format said detail own]
  cases authKind with
  | chatgptOauth => decide
  | apiKey => decide
  | bedrockMantle => decide

/-- Reasoning items of different ids make a group each, in their order. -/
theorem bucket_leads {leads : List ConversationItem} {groups : ReasoningGroups}
    (distinct : (reasoningIds leads).Nodup)
    (absent : ∀ id ∈ reasoningIds leads, some id ∉ groups.map Prod.fst) :
    (leads.flatMap detailsOf).foldl bucket groups = groups ++ leads.filterMap groupOf := by
  induction leads generalizing groups with
  | nil => simp
  | cons said rest ih =>
    rw [List.flatMap_cons, List.foldl_append]
    cases said with
    | reasoning id summary content encryptedContent =>
      have ids : reasoningIds (.reasoning id summary content encryptedContent :: rest) =
          id :: reasoningIds rest := rfl
      rw [ids, List.nodup_cons] at distinct
      rw [ids] at absent
      have grouped : (detailsOf (.reasoning id summary content encryptedContent)).foldl bucket
          groups = groups ++ (groupOf
            (.reasoning id summary content encryptedContent)).toList := by
        rw [bucket_new (absent id List.mem_cons_self) detailsOf_id (by simp [detailsOf])]
        rw [detailsOf, List.foldl_append, add_summaries, add_contents id _ _ rfl]
        rfl
      rw [grouped, ih distinct.2, List.append_assoc]
      · rfl
      · intro other member
        have different : other ≠ id := by
          rintro rfl
          exact distinct.1 member
        have before := absent other (List.mem_cons_of_mem _ member)
        simpa [groupOf, different] using before
    | message role texts => exact ih distinct absent
    | functionCall callId name arguments => exact ih distinct absent
    | functionCallOutput callId output => exact ih distinct absent

theorem groupItem_told (read : String → Option Json) (id : String) (group : ReasoningGroup) :
    (groupItem (some id) group).map (told read) =
      if group.encryptedContent.getD "" = "" then none
      else some (some (.reasoning id group.summary group.content
        (group.encryptedContent.getD ""))) := by
  unfold groupItem
  dsimp only
  split
  case isTrue => rfl
  case isFalse => rfl

/-- The reasoning of a turn as it is told. -/
theorem liftReasoningDetails_leads (read : String → Option Json) (authKind : AuthKind)
    {leads : List ConversationItem} (reasonings : ∀ said ∈ leads, place said = .lead)
    (distinct : (reasoningIds leads).Nodup) :
    (liftReasoningDetails authKind (leads.flatMap detailsOf)).map (told read) =
      (leads.filterMap resealed).map some := by
  unfold liftReasoningDetails
  rw [participates_all, bucket_leads distinct (by simp), List.nil_append, List.filterMap_filterMap,
    List.map_filterMap, List.map_filterMap]
  apply List.filterMap_congr
  intro said member
  have lead := reasonings said member
  cases said with
  | reasoning id summary content encryptedContent =>
    have grouped := groupItem_told read id
      { summary
        content := (content ++ [ReasoningContentItem.reasoningEncrypted encryptedContent]).eraseP
          fun entry => !entry.isText
        encryptedContent := (content ++
          [ReasoningContentItem.reasoningEncrypted encryptedContent]).findSome?
            ReasoningContentItem.sealed }
    unfold resealed
    dsimp only [groupOf, Option.bind_some]
    rw [grouped]
    split
    case isTrue => rfl
    case isFalse => rfl
  | message role texts =>
    unfold place at lead
    dsimp only at lead
    split at lead
    case isTrue => cases lead
    case isFalse => cases lead
  | functionCall callId name arguments => cases lead
  | functionCallOutput callId output => cases lead

theorem liftReasoningDetails_replayable (authKind : AuthKind) (details : List ReasoningDetail) :
    (liftReasoningDetails authKind details).filter replayableReasoning =
      liftReasoningDetails authKind details := by
  apply List.filter_eq_self.mpr
  intro item member
  obtain ⟨⟨key, group⟩, _, made⟩ := List.mem_filterMap.mp member
  unfold groupItem at made
  dsimp only at made
  split at made
  case isTrue => cases made
  case isFalse nonempty =>
    cases made
    exact decide_eq_true nonempty

end Bucketing
end Routectl.Replay
