import PromptStream.Proofs.Grouping
import PromptStream.Proofs.Prompt.Messages
import PromptStream.Proofs.Render.PassThrough
import PromptStream.Provider.Body

/-!
# Views of a prompt

A prompt is looked at in several ways: group by group, as the messages of a chat, as one text, by
the last thing that a role said, and as a transcript with a header wherever the role changes.
They agree, because each of them can be told from the role groups (`Prompt.views_agree`).

The role groups are the groups that the role cuts a prompt into (`GroupedBy`).  So there is one
message for each of them (`Prompt.messages_eq_map`), and one header in a transcript
(`Prompt.elementsText_eq_join_groupText`).
-/

namespace PromptStream

theorem Role.name_ne_empty (role : Role) : role.name ≠ "" := by
  cases role <;> decide

theorem Role.eq_of_name_eq {role other : Role} (same : role.name = other.name) : role = other := by
  revert same
  cases role <;> cases other <;> decide

namespace Prompt

variable {p : Prompt} {group : List Element} {groups : List (List Element)} {e : Element}

/-! ## Role groups -/

/-- The role of a group that is not empty. -/
def speaker : List Element → Role
  | [] => default
  | e :: _ => e.role

theorem groupedBy_roleGroups (p : Prompt) : GroupedBy Element.role p p.roleGroups := by
  rw [roleGroups_eq_splitBy]
  exact groupedBy_splitBy Element.role p

theorem role_eq_speaker (h : GroupedBy Element.role p groups) (mem : group ∈ groups)
    (inside : e ∈ group) : e.role = speaker group := by
  obtain ⟨f, run, rfl⟩ := h.exists_cons mem
  exact h.same _ mem e inside f List.mem_cons_self

/-! ## Messages -/

/-- There is one message for each role group. -/
theorem messages_eq_map (p : Prompt) :
    p.messages = p.roleGroups.map fun group => ⟨speaker group, text group⟩ := by
  rw [messages, List.filterMap_eq_map_iff_forall_eq_some]
  intro group mem
  obtain ⟨e, run, rfl⟩ := (groupedBy_roleGroups p).exists_cons mem
  rfl

theorem text_flatten (groups : List (List Element)) :
    text groups.flatten = String.join (groups.map text) := by
  induction groups with
  | nil => rfl
  | cons group groups ih =>
      rw [List.flatten_cons, List.map_cons, String.join_cons, ← ih, text, List.map_append,
        String.join_append]
      rfl

theorem join_messages (p : Prompt) : String.join (p.messages.map (·.content)) = p.text := by
  rw [messages_eq_map, List.map_map]
  exact (text_flatten p.roleGroups).symm.trans (congrArg text (groupedBy_roleGroups p).joined)

/-- Neighbours among the messages have different roles. -/
theorem isChain_messages (p : Prompt) : p.messages.IsChain fun m next => m.role ≠ next.role := by
  have grouped := groupedBy_roleGroups p
  rw [messages_eq_map, List.isChain_map]
  refine grouped.apart.imp_of_mem_imp fun group next mem mem' apart => ?_
  obtain ⟨e, run, rfl⟩ := grouped.exists_cons mem
  obtain ⟨f, run', rfl⟩ := grouped.exists_cons mem'
  exact apart e List.mem_cons_self f List.mem_cons_self

/-- If neighbours have different roles, every element is a group of its own. -/
theorem roleGroups_of_isChain (apart : p.IsChain fun e f => e.role ≠ f.role) :
    p.roleGroups = p.map ([·]) := by
  induction p with
  | nil => rfl
  | cons e rest ih =>
      rw [List.isChain_cons] at apart
      rw [roleGroups, ih apart.2]
      cases rest with
      | nil => rfl
      | cons f rest => exact if_neg (apart.1 f rfl)

/-- Elements that say what the messages say have the same messages, wherever their text came
from. -/
theorem messages_eq_of_map {q : Prompt}
    (same : q.map (fun e => ⟨e.role, e.content⟩) = p.messages) : q.messages = p.messages := by
  have apart : q.IsChain fun e f => e.role ≠ f.role := by
    have chain := isChain_messages p
    rw [← same, List.isChain_map] at chain
    exact chain
  rw [messages_eq_map, roleGroups_of_isChain apart, List.map_map, ← same]
  refine List.map_congr_left fun e _ => ?_
  exact congrArg (ChatMessage.mk e.role) (by simp [text])

/-! ## The last thing a role said -/

theorem lastContent?_eq (p : Prompt) (role : Role) :
    p.lastContent? role
      = (p.messages.filter fun m => m.role == role).getLast?.map (·.content) := by
  have same : (p.roleGroups.filter fun group => group.head?.any (·.role == role))
      = p.roleGroups.filter fun group => speaker group == role := by
    refine List.filter_congr fun group mem => ?_
    obtain ⟨e, run, rfl⟩ := (groupedBy_roleGroups p).exists_cons mem
    rfl
  rw [lastContent?, same, messages_eq_map, List.filter_map, List.getLast?_map, Option.map_map]
  rfl

/-- A role has said nothing exactly if no element has it. -/
theorem lastContent?_eq_none_iff (p : Prompt) (role : Role) :
    p.lastContent? role = none ↔ ∀ e ∈ p, e.role ≠ role := by
  have grouped := groupedBy_roleGroups p
  rw [lastContent?_eq, messages_eq_map, Option.map_eq_none_iff, List.getLast?_eq_none_iff,
    List.filter_eq_nil_iff]
  simp only [List.forall_mem_map, beq_iff_eq]
  conv_rhs => rw [← grouped.joined]
  simp only [List.mem_flatten]
  constructor
  · rintro other e ⟨group, mem, inside⟩
    rw [role_eq_speaker grouped mem inside]
    exact other group mem
  · intro other group mem
    obtain ⟨e, run, rfl⟩ := grouped.exists_cons mem
    exact other e ⟨_, mem, List.mem_cons_self⟩

/-! ## Transcripts -/

/-- What a transcript with headers says of a role group. -/
def groupText (color : Bool) (group : List Element) : String :=
  roleHeader (speaker group) ++ String.join (group.map (renderElement color))

/-- An element joins the first group of those after it, or is one of its own before them. -/
theorem roleGroups_cons (e : Element) (rest : Prompt) :
    rest = [] ∧ roleGroups (e :: rest) = [[e]] ∨
      ∃ f run groups, rest.roleGroups = (f :: run) :: groups ∧
        roleGroups (e :: rest)
          = if e.role = f.role then (e :: f :: run) :: groups else [e] :: (f :: run) :: groups := by
  have grouped := groupedBy_roleGroups rest
  rw [roleGroups]
  cases later : rest.roleGroups with
  | nil =>
      refine .inl ⟨?_, rfl⟩
      rw [← grouped.joined, later]
      rfl
  | cons group groups =>
      obtain ⟨f, run, rfl⟩ := grouped.exists_cons (later ▸ List.mem_cons_self)
      exact .inr ⟨f, run, groups, rfl, rfl⟩

/-- Only the first group may go on where the role that has spoken last left off. -/
theorem elementsText_eq_of_roleGroups {options : RenderOptions} (shown : options.showRoles = true)
    (previous : Option Role) {run : List Element} (first : p.roleGroups = (e :: run) :: groups) :
    elementsText options previous p = headerText options previous e.role
      ++ String.join ((e :: run).map (renderElement options.color))
      ++ String.join (groups.map (groupText options.color)) := by
  induction p generalizing previous e run groups with
  | nil => cases first
  | cons d rest ih =>
      rw [elementsText, elementText]
      rcases roleGroups_cons d rest with ⟨rfl, alone⟩ | ⟨f, run', groups', later, whole⟩
      · rw [alone] at first
        cases first
        simp [elementsText]
      · rw [ih (some d.role) later]
        rw [whole] at first
        split at first
        next same =>
          cases first
          simp [headerText, same, String.append_assoc]
        next other =>
          cases first
          simp [headerText, shown, other, groupText, speaker, String.append_assoc]

/-- A transcript with headers says of the elements what it says of their groups. -/
theorem elementsText_eq_join_groupText {options : RenderOptions}
    (shown : options.showRoles = true) (p : Prompt) :
    elementsText options none p = String.join (p.roleGroups.map (groupText options.color)) := by
  have grouped := groupedBy_roleGroups p
  cases same : p.roleGroups with
  | nil =>
      rw [← grouped.joined, same]
      rfl
  | cons group groups =>
      obtain ⟨e, run, rfl⟩ := grouped.exists_cons (same ▸ List.mem_cons_self)
      rw [elementsText_eq_of_roleGroups shown none same]
      simp [headerText, shown, groupText, speaker]

/-! ## Agreement -/

/-- Whichever way a prompt is looked at, it is the same.

Its role groups are not empty, have one role each, and another one than their neighbours, and
together they are the prompt; no other groups do.  So neighbours among its messages have
different roles, and what they say together is its text: the bodies of a request in a chat and
outside of one send the same text.  Elements that say what the messages say have the same
messages.  The last thing that a role said is in its last message, and there is none exactly if
no element has that role.  A transcript with headers of anything that yields these elements,
however it ends, has one header for each role group, before what the group says: a line with the
name of the role between rules.  No name is empty, and no two roles have the same. -/
theorem views_agree (p : Prompt) :
    (∀ groups, GroupedBy Element.role p groups ↔ groups = p.roleGroups) ∧
    p.messages = p.roleGroups.map (fun group => ⟨speaker group, text group⟩) ∧
    (p.messages.IsChain fun m next => m.role ≠ next.role) ∧
    String.join (p.messages.map (·.content)) = p.text ∧
    (∀ (settings : Provider.Settings) (r : Request), r.prompt = p →
      let chat := Provider.Body.ofRequest settings { r with isChat := true }
      let plain := Provider.Body.ofRequest settings { r with isChat := false }
      ∃ sent, chat.messages = some sent ∧ chat.prompt = none ∧ plain.messages = none ∧
        plain.prompt = some (String.join (sent.map (·.content)))) ∧
    (∀ q : Prompt, q.map (fun e => ⟨e.role, e.content⟩) = p.messages → q.messages = p.messages) ∧
    (∀ role,
      p.lastContent? role
          = (p.messages.filter fun m => m.role == role).getLast?.map (·.content) ∧
        (p.lastContent? role = none ↔ ∀ e ∈ p, e.role ≠ role)) ∧
    (∀ color group, groupText color group
      = "\n------------------ " ++ (speaker group).name ++ " ------------------\n"
          ++ String.join (group.map (renderElement color))) ∧
    (∀ role : Role, role.name ≠ "" ∧ ∀ other : Role, role.name = other.name → role = other) ∧
    ∀ (σ : Type) (next : σ → Poll × σ) (s : σ) (ending : Option Fault) (options : RenderOptions),
      Yields next s p ending → options.showRoles = true →
      ∃ enough, ∀ visits : List Nat, (∀ n ∈ visits, 0 < n) → enough ≤ visits.length →
        (renderVisits next visits ⟨options, {}, none, false⟩ s).2.1.sink.written
          = Utf8.encode (String.join (p.roleGroups.map (groupText options.color))
              ++ if ending.isNone then closingRule else "") := by
  refine ⟨fun groups => ?_, messages_eq_map p, isChain_messages p, join_messages p, ?_,
    fun q => messages_eq_of_map, fun role => ⟨lastContent?_eq p role,
    lastContent?_eq_none_iff p role⟩, fun _ _ => rfl,
    fun role => ⟨role.name_ne_empty, fun _ => Role.eq_of_name_eq⟩, ?_⟩
  · rw [roleGroups_eq_splitBy]
    exact groupedBy_iff
  · rintro settings r rfl
    exact ⟨r.prompt.messages, rfl, rfl, rfl, congrArg some (join_messages r.prompt).symm⟩
  · intro σ next s ending options yields shown
    rw [← elementsText_eq_join_groupText shown]
    exact written_eq_fullText yields options

/-- Two speakers take turns, and the second has nothing to say. -/
theorem views_agree_of_turns :
    let asked : Element := ⟨"Is it ", .prompt, .user⟩
    let filled : Element := ⟨"raining?", .constant, .user⟩
    let silent : Element := ⟨"", .llm, .assistant⟩
    let p : Prompt := [asked, filled, silent, filled]
    p.roleGroups = [[asked, filled], [silent], [filled]] ∧
      messages [⟨"Is it raining?", .prompt, .user⟩, silent, filled] = p.messages ∧
      p.lastContent? .system = none ∧
      ∃ visits, (renderVisits Feed.poll visits ⟨{ color := false }, {}, none, false⟩
          [.item asked, .item filled, .pending, .item silent, .item filled]).2.1.sink.written
        = Utf8.encode ("\n------------------ user ------------------\nIs it raining?"
            ++ "\n------------------ assistant ------------------\n"
            ++ "\n------------------ user ------------------\nraining?"
            ++ "\n----------------------------------------\n") := by
  intro asked filled silent p
  obtain ⟨-, -, -, -, -, regrouped, last, -, -, rendered⟩ := views_agree p
  have groups : p.roleGroups = [[asked, filled], [silent], [filled]] := by decide +kernel
  have yields : Yields Feed.poll
      [.item asked, .item filled, .pending, .item silent, .item filled] p none :=
    .element rfl (.element rfl (.waits (.inl rfl) (.element rfl (.element rfl (.ended rfl)))))
  obtain ⟨enough, written⟩ := rendered _ _ _ none { color := false } yields rfl
  refine ⟨groups, regrouped _ (by decide +kernel), (last .system).2.2 (by decide +kernel),
    List.replicate enough 1, ?_⟩
  rw [written _ (fun n mem => List.eq_of_mem_replicate mem ▸ Nat.one_pos)
    (Nat.le_of_eq List.length_replicate.symm), groups]
  decide +kernel

end Prompt

end PromptStream
