import PromptStream.CommandLine.Session
import PromptStream.Proofs.Engine.Closing
import PromptStream.Proofs.Engine.Reaching
import PromptStream.Proofs.Outputs.Write
import PromptStream.Proofs.Prompt.Views

/-!
# Text passes through a session

What is typed at the command line reaches the model as it was typed.  The prompt of a session
hands out the messages one by one as values (`Reaches.message`), so no literal is normalized on
the way to its generation (`reaches_answer`).  From there on the run only closes
(`Frame.Closing`), so the request that the generation makes is the only one, whatever becomes of
it (`session_asks_once`).

An echo cuts the last message of the user after its spaces (`splitAfterSpaces_cuts`), and a
generation that nothing stops puts the pieces together again.
-/

namespace PromptStream

namespace CommandLine

/-! ## The words of an echo -/

/-- A text that is cut after each of its spaces. -/
structure CutAfterSpaces (cs : List Char) (pieces : List (List Char)) : Prop where
  joined : pieces.flatten = cs
  nonempty : [] ∉ pieces
  inside : ∀ piece ∈ pieces, ' ' ∉ piece.dropLast
  ends : ∀ piece ∈ pieces.dropLast, piece.getLast? = some ' '

section Cut

variable {cs piece : List Char} {pieces : List (List Char)} {c : Char}

/-- A space is a piece of its own before the others. -/
theorem CutAfterSpaces.space (h : CutAfterSpaces cs pieces) :
    CutAfterSpaces (' ' :: cs) ([' '] :: pieces) where
  joined := congrArg (' ' :: ·) h.joined
  nonempty := List.not_mem_cons_of_ne_of_not_mem (List.cons_ne_nil _ _).symm h.nonempty
  inside := List.forall_mem_cons.2 ⟨List.not_mem_nil, h.inside⟩
  ends := by
    have ends := h.ends
    cases pieces with
    | nil => exact nofun
    | cons piece pieces => exact List.forall_mem_cons.2 ⟨rfl, ends⟩

/-- Another character joins the first piece. -/
theorem CutAfterSpaces.joins (h : CutAfterSpaces cs (piece :: pieces)) (other : c ≠ ' ') :
    CutAfterSpaces (c :: cs) ((c :: piece) :: pieces) := by
  obtain ⟨d, rest, rfl⟩ : ∃ d rest, piece = d :: rest := by
    cases piece with
    | nil => exact absurd List.mem_cons_self h.nonempty
    | cons d rest => exact ⟨d, rest, rfl⟩
  obtain ⟨inside, others⟩ := List.forall_mem_cons.1 h.inside
  refine ⟨congrArg (c :: ·) h.joined, ?_, List.forall_mem_cons.2 ⟨?_, others⟩, ?_⟩
  · exact List.not_mem_cons_of_ne_of_not_mem (List.cons_ne_nil _ _).symm
      (mt (List.mem_cons_of_mem _) h.nonempty)
  · rw [List.dropLast_cons_cons]
    exact List.not_mem_cons_of_ne_of_not_mem other.symm inside
  · have ends := h.ends
    cases pieces with
    | nil => exact nofun
    | cons next pieces =>
        rw [List.dropLast_cons_cons] at ends ⊢
        obtain ⟨last, ends⟩ := List.forall_mem_cons.1 ends
        exact List.forall_mem_cons.2 ⟨List.getLast?_cons_cons.trans last, ends⟩

theorem splitAfterSpaces_cuts (cs : List Char) : CutAfterSpaces cs (splitAfterSpaces cs) := by
  induction cs with
  | nil => exact ⟨rfl, List.not_mem_nil, nofun, nofun⟩
  | cons c cs ih =>
      rw [splitAfterSpaces]
      split
      next space =>
        rw [space]
        exact ih.space
      next other =>
        split
        next none =>
          rw [← ih.joined, none]
          exact ⟨rfl, by simp, by simp, nofun⟩
        next piece pieces later =>
          rw [later] at ih
          exact ih.joins other

end Cut

/-! ## What is typed -/

/-- The elements of what is typed: a text for the system if there is one, and one of the user. -/
def typed (system : Option String) (user : String) : Prompt :=
  (system.map fun s => ⟨s, .constant, .system⟩).toList ++ [⟨user, .constant, .user⟩]

theorem messages_typed (system : Option String) (user : String) :
    (typed system user).messages
      = (system.map fun s => ⟨.system, s⟩).toList ++ [⟨.user, user⟩] := by
  cases system <;> simp [typed, Prompt.messages, Prompt.roleGroups, Prompt.messageOfGroup?,
    Prompt.text]

theorem lastContent?_typed (system : Option String) (user : String) :
    (typed system user).lastContent? .user = some user := by
  rw [Prompt.lastContent?_eq, messages_typed]
  cases system <;> rfl

/-- An echo repeats what the user has typed. -/
theorem echoDeltas_typed (system : Option String) (user : String) :
    echoDeltas (typed system user)
      = (splitAfterSpaces user.toList).map fun piece => ⟨0, String.ofList piece⟩ := by
  rw [echoDeltas, lastContent?_typed]
  rfl

theorem join_splitAfterSpaces (s : String) :
    String.join ((splitAfterSpaces s.toList).map String.ofList) = s := by
  have joined := (splitAfterSpaces_cuts s.toList).joined
  rw [← String.toList_inj, String.toList_join, List.flatMap_map]
  simpa [List.flatMap_id'] using joined

/-- The request of a session. -/
def request (llm : Llm) (system : Option String) (user : String) (options : GenerationOptions) :
    Request where
  prompt := typed system user
  maxTokens := options.maxTokens
  topP := options.topP
  stop := options.stop
  stream := (options.stream.or llm.stream).getD false
  isChat := llm.isChat
  model := options.model

/-- The place of the answer, which comes after what is typed. -/
def answerProps (llm : Llm) (params : Json) (index : Nat) : Props :=
  let root : Props := ⟨llm.context, params, none⟩
  ((root.descend index).fork (Patch.ofRole .assistant)).withNextLiteral none

end CommandLine

/-! ## The way to the request -/

variable {φ ν : Type} {host : Host φ ν} {start : Run φ ν} {said : List Element}
  {rest : List (Frame φ)} {props : Props} {w : World φ ν}

open CommandLine

theorem World.prompt_foldl_consume (p : Prompt) (w : World φ ν) :
    (p.foldl World.consume w).scene.prompt = w.scene.prompt ++ p := by
  induction p generalizing w with
  | nil => exact (List.append_nil _).symm
  | cons e p ih => exact (ih (w.consume e)).trans (List.append_assoc _ [e] p)

theorem World.connectors_foldl_consume (p : Prompt) (w : World φ ν) :
    (p.foldl World.consume w).connectors = w.connectors := by
  induction p generalizing w with
  | nil => rfl
  | cons e p ih => exact ih (w.consume e)

theorem Connector.requests_complete (c : Connector) (r : Request) :
    (c.complete r).2.requests = c.requests ++ [r] := by
  unfold Connector.complete
  split <;> rfl

theorem Connector.complete_of_echo {c : Connector} (echoes : c.script = .echo) (r : Request) :
    (c.complete r).1 = (echoDeltas r.prompt).map .item := by
  rw [Connector.complete, echoes]

/-- A value is handed out as it is. -/
theorem Brings.value (host : Host φ ν) (start : Run φ ν) (s : String) (props : Props)
    (w : World φ ν) :
    Brings host start (.text s) props w fun items w' =>
      items = [⟨s, .constant, props.context.role⟩] ∧
        w' = w.consume ⟨s, .constant, props.context.role⟩ := by
  intro rest said intact reached
  exact ⟨_, _, ⟨rfl, rfl⟩, reached.element rfl intact⟩

/-- The next message of a list is handed out. -/
theorem Reaches.message {role : Role} {s : String} {index : Nat} {more : List (Input φ)}
    (h : Reaches host start said
      ⟨.items props index (CommandLine.message role s :: more) :: rest, w⟩)
    (intact : Frame.belowFailed rest = none) :
    Reaches host start (said ++ [⟨s, .constant, role⟩])
      ⟨.items props (index + 1) more :: rest, w.consume ⟨s, .constant, role⟩⟩ := by
  have brings : Brings host start (CommandLine.message role s) (props.descend index) w _ :=
    Brings.wrap (Brings.value host start s _ w)
  obtain ⟨items, w', ⟨rfl, rfl⟩, left⟩ := brings _ _ (by exact intact) (h.more rfl)
  exact left

namespace CommandLine

/-- What is left below the generation of the answer. -/
def answerTail (llm : Llm) (params : Json) (index : Nat) : List (Frame φ) :=
  let root : Props := ⟨llm.context, params, none⟩
  [.guard false, .binder ((root.descend index).fork (Patch.ofRole .assistant)) [] [], .guard false,
    .items root (index + 1) [], .guard false, .guard false]

theorem closing_answerTail (llm : Llm) (params : Json) (index : Nat) :
    ∀ f ∈ (answerTail llm params index : List (Frame φ)), f.Closing := by
  intro f mem
  simp only [answerTail, List.mem_cons, List.not_mem_nil, or_false] at mem
  rcases mem with rfl | rfl | rfl | rfl | rfl | rfl
  · exact .guard false
  · exact .binder _
  · exact .guard false
  · exact .items _ _
  · exact .guard false
  · exact .guard false

/-- Everything that is typed has been handed out when the answer is to be generated. -/
theorem reaches_answer (host : Host φ ν) (llm : Llm) (params : Json) (system : Option String)
    (user : String) (options : GenerationOptions) (w : World φ ν) :
    let index := (typed system user).length
    Reaches host (Run.start llm (prompt system user options) params w) (typed system user)
      ⟨.input (.action (.generate answerName options)) (answerProps llm params index) false
        :: answerTail llm params index, (typed system user).foldl World.consume w⟩ := by
  have begun := (Reaches.refl host (Run.start llm (prompt system user options) params w)).more rfl
  cases system with
  | none =>
      have asked := begun.message rfl
      exact ((asked.more rfl).more rfl).more rfl
  | some s =>
      have asked := (begun.message rfl).message rfl
      exact ((asked.more rfl).more rfl).more rfl

/-! ## One request -/

section Session

variable {llm : Llm} {c : Connector}

/-- The answer is asked for with what was typed. -/
theorem askConnector_answer (params : Json) (system : Option String) (user : String)
    (options : GenerationOptions) (empty : w.scene.prompt = [])
    (found : w.connectors[llm.completion.index]? = some c) :
    let asked := askConnector answerName options
      (answerProps llm params (typed system user).length)
      ((typed system user).foldl World.consume w)
    let answered := c.complete (request llm system user options)
    asked.1 = answered.1 ∧
      asked.2.connectors = w.connectors.set llm.completion.index answered.2 := by
  intro asked answered
  let place := answerProps llm params (typed system user).length
  have shown : ((typed system user).foldl World.consume w).scene.prompt = typed system user := by
    rw [World.prompt_foldl_consume, empty, List.nil_append]
  have there : ((typed system user).foldl World.consume w).connectors[
      place.context.llm.completion.index]? = some c := by
    rw [World.connectors_foldl_consume]
    exact found
  have same := askConnector_eq answerName options there
  rw [shown, World.connectors_foldl_consume] at same
  exact ⟨congrArg Prod.fst same, congrArg (fun x => x.2.connectors) same⟩

/-- A session comes to its end, and makes one request on the way. -/
theorem session_asks_once (host : Host φ ν) (params : Json) (system : Option String)
    (user : String) (options : GenerationOptions) (empty : w.scene.prompt = [])
    (found : w.connectors[llm.completion.index]? = some c) :
    ∃ n answer w', Consumer.recorder.drain host n
        (Run.start llm (prompt system user options) params w)
          = ((typed system user).map .ok ++ answer, ⟨[], w'⟩) ∧
      w'.connectors = w.connectors.set llm.completion.index
        (c.complete (request llm system user options)).2 := by
  let place := answerProps llm params (typed system user).length
  let asked := askConnector answerName options place ((typed system user).foldl World.consume w)
  let m : Machine φ ν := ⟨.generation (freshGeneration answerName options place) place asked.1
    :: answerTail llm params (typed system user).length, asked.2⟩
  have reached : Reaches host (Run.start llm (prompt system user options) params w)
      (typed system user) m := (reaches_answer host llm params system user options w).more rfl
  have closing : ∀ f ∈ m.stack, f.Closing :=
    List.forall_mem_cons.2 ⟨.generation _ place asked.1, closing_answerTail llm params _⟩
  obtain ⟨k, drained⟩ := reached
  obtain ⟨n, ended, same⟩ := exists_drain_of_closing host closing
  refine ⟨k + n, (Consumer.recorder.drain host n m).1, (Consumer.recorder.drain host n m).2.world,
    ?_, same.trans (askConnector_answer params system user options empty found).2⟩
  rw [Consumer.drain_add, drained, ← ended]

/-! ## Echoes -/

/-- If nothing stops it, an echo is answered with what the user has typed. -/
theorem session_echoes (host : Host φ ν) (params : Json) (system : Option String)
    (user : String) {options : GenerationOptions} (empty : w.scene.prompt = [])
    (found : w.connectors[llm.completion.index]? = some c) (echoes : c.script = .echo)
    (free : options.stop = none) :
    ∃ n said w', Consumer.recorder.drain host n
        (Run.start llm (prompt system user options) params w)
          = ((typed system user ++ said.map (saidElement .assistant)).map .ok, ⟨[], w'⟩) ∧
      String.join said = user ∧ w'.scene.outputs.lookup? [answerName] = some (.text user) := by
  let place := answerProps llm params (typed system user).length
  let texts := (splitAfterSpaces user.toList).map String.ofList
  have given : completionOf answerName options place ((typed system user).foldl World.consume w)
      = texts.map fun s => .item ⟨0, s⟩ := by
    refine (askConnector_answer params system user options empty found).1.trans ?_
    rw [Connector.complete_of_echo echoes, request, echoDeltas_typed, List.map_map, List.map_map]
    rfl
  have unstopped : options.effectiveStop place.nextLiteral = none := free
  have healthy : ∀ f, .failed f ∉ completionOf answerName options place
      ((typed system user).foldl World.consume w) := by
    rw [given]
    intro f mem
    obtain ⟨s, -, same⟩ := List.mem_map.1 mem
    cases same
  obtain ⟨items, w', generated, left⟩ := Brings.generate unstopped healthy
    (answerTail llm params (typed system user).length) (typed system user) rfl
    (reaches_answer host llm params system user options w)
  obtain ⟨said, rfl, spoken⟩ := generated.spoken
  have closed : Reaches host (Run.start llm (prompt system user options) params w) _ ⟨[], w'⟩ :=
    ((((((left.more rfl).more rfl).more rfl).more rfl).more rfl).more rfl)
  obtain ⟨n, drained⟩ := closed
  refine ⟨n, said, w', drained, ?_, ?_⟩
  · rw [spoken, given, Generation.choiceText_leads, join_splitAfterSpaces]
  · rw [generated.outputs, given, Generation.ofTexts_gathered_leads, join_splitAfterSpaces]
    exact Outputs.lookup?_insert_cons _ answerName _ []

/-- What is typed passes through a session as it is, whatever characters it is made of.

A session that is polled often enough comes to its end.  It hands out what is typed, and with it
makes one request to its connector and none to another, whatever the connector answers; the
messages of the request are what is typed.

An echo answers with the text of the user, cut after its spaces.  If nothing stops the
generation, what it says is that text again, and the text is recorded. -/
theorem session_passes_through (host : Host φ ν) (params : Json) (system : Option String)
    (user : String) (options : GenerationOptions) (empty : w.scene.prompt = [])
    (found : w.connectors[llm.completion.index]? = some c) :
    let start := Run.start llm (prompt system user options) params w
    let asked := request llm system user options
    asked.prompt.messages = (system.map fun s => ⟨.system, s⟩).toList ++ [⟨.user, user⟩] ∧
    (c.complete asked).2.requests = c.requests ++ [asked] ∧
    (∃ many, ∀ fuels : List Nat, (∀ fuel ∈ fuels, 0 < fuel) → many < fuels.length →
      .ended ∈ (Run.polls host fuels start).1) ∧
    (∀ fuels, .ended ∈ (Run.polls host fuels start).1 →
      (typed system user).map .ok <+: handedOut (Run.polls host fuels start).1 ∧
      (Run.polls host fuels start).2.world.connectors
        = w.connectors.set llm.completion.index (c.complete asked).2) ∧
    (c.script = .echo →
      (∃ deltas : List Delta, (c.complete asked).1 = deltas.map .item ∧
        (∀ d ∈ deltas, d.choice = 0) ∧ CutAfterSpaces user.toList (deltas.map (·.text.toList))) ∧
      (options.stop = none → ∃ answer : Prompt,
        (∀ e ∈ answer, e.source = .llm ∧ e.role = .assistant) ∧ answer.text = user ∧
        ∀ fuels, .ended ∈ (Run.polls host fuels start).1 →
          handedOut (Run.polls host fuels start).1 = (typed system user ++ answer).map .ok ∧
          (Run.polls host fuels start).2.world.scene.outputs.lookup? [answerName]
            = some (.text user))) := by
  intro start asked
  obtain ⟨n, answer, w', drained, connectors⟩ :=
    session_asks_once host params system user options empty found
  obtain ⟨ends, left⟩ := Run.polls_of_drain drained
  refine ⟨messages_typed system user, c.requests_complete asked, ends, fun fuels ended => ?_,
    fun echoes => ⟨?_, fun free => ?_⟩⟩
  · obtain ⟨handed, last⟩ := left fuels ended
    rw [handed, last]
    exact ⟨List.prefix_append _ _, connectors⟩
  · have given := Connector.complete_of_echo echoes asked
    refine ⟨_, given.trans (congrArg _ (echoDeltas_typed system user)), fun d mem => ?_, ?_⟩
    · obtain ⟨piece, -, rfl⟩ := List.mem_map.1 mem
      rfl
    · have same : (fun d : Delta => d.text.toList) ∘ (fun piece => ⟨0, String.ofList piece⟩) = id :=
        funext fun _ => String.toList_ofList
      rw [List.map_map, same, List.map_id]
      exact splitAfterSpaces_cuts user.toList
  · obtain ⟨n, said, w', drained, spoken, recorded⟩ :=
      session_echoes host params system user empty found echoes free
    refine ⟨said.map (saidElement .assistant), fun e mem => ?_,
      (Prompt.text_saidElements .assistant said).trans spoken, fun fuels ended => ?_⟩
    · obtain ⟨s, -, rfl⟩ := List.mem_map.1 mem
      exact ⟨rfl, rfl⟩
    · obtain ⟨handed, last⟩ := (Run.polls_of_drain drained).2 fuels ended
      rw [handed, last]
      exact ⟨rfl, recorded⟩

/-- Line ends, indentation and the characters of patterns come back from an echo. -/
theorem session_passes_through_of_echo :
    let user := "one\r\n  \\d+ two "
    let w : World Empty Empty := { connectors := [.echo] }
    let start := Run.start default (prompt (some "be\r\n  brief") user {}) .null w
    ∃ fuels answer,
      let polled := Run.polls plainHost fuels start
      Prompt.text answer = user ∧
        handedOut polled.1 = (typed (some "be\r\n  brief") user ++ answer).map .ok ∧
        polled.2.world.scene.outputs.lookup? ["answer"] = some (.text user) ∧
        polled.2.world.connectors.map (·.requests.length) = [1] := by
  intro user w start
  have empty : w.scene.prompt = [] := rfl
  have found : w.connectors[(default : Llm).completion.index]? = some .echo := rfl
  obtain ⟨-, requests, ⟨many, ends⟩, left, echoes⟩ := session_passes_through plainHost .null
    (some "be\r\n  brief") user {} empty found
  obtain ⟨-, answered⟩ := echoes rfl
  obtain ⟨answer, -, same, polled⟩ := answered rfl
  have ended := ends (List.replicate (many + 1) 1)
    (fun n mem => List.eq_of_mem_replicate mem ▸ Nat.one_pos)
    (Nat.lt_of_lt_of_eq (Nat.lt_succ_self many) List.length_replicate.symm)
  obtain ⟨handed, recorded⟩ := polled _ ended
  refine ⟨_, answer, same, handed, recorded, ?_⟩
  rw [(left _ ended).2]
  exact congrArg (fun rs : List Request => [rs.length]) requests

end Session

end CommandLine

end PromptStream
