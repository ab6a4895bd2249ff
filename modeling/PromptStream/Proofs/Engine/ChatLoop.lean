import PromptStream.Proofs.Engine.PushedRun
import PromptStream.Proofs.Outputs.IterationLists
import PromptStream.Proofs.Prompt.Messages
import PromptStream.Proofs.Text.Literal

/-!
# Chat loops

A chat is a text for the model and a loop whose iterations wait for something to be said and
have it answered.  After some turns the prompt is the transcript of these turns, one message
for each of them and its answer, and the outputs hold what was said and answered at the
positions of the turns (`ChatAfter`).  Every turn carries this on (`ChatAfter.turn`), so each
request shows the transcript up to it, and at the end the whole chat is recorded
(`chat_loop_transcript`).
-/

namespace PromptStream

variable {φ ν : Type}

open Generation (gathered)
open Outputs (Opens afterIterations)

/-! ## Chats -/

/-- What a user says, and the pieces of the answer. -/
structure Turn where
  said : String
  reply : List String

namespace Turn

/-- The whole answer. -/
def answer (t : Turn) : String := String.join t.reply

/-- The answer as it comes from a connector. -/
def deltas (t : Turn) : List Delta := t.reply.map (⟨0, ·⟩)

/-- The messages of a turn. -/
def exchange (t : Turn) : List ChatMessage := [⟨.user, t.said⟩, ⟨.assistant, t.answer⟩]

/-- What a turn leaves in the outputs. -/
def results (t : Turn) : Outputs := [("message", .text t.said), ("reply", .text t.answer)]

theorem choiceText_deltas (t : Turn) : choiceText 0 (t.deltas.map .item) = t.answer := by
  rw [deltas, List.map_map]
  exact Generation.choiceText_leads t.reply

theorem gathered_deltas (t : Turn) :
    OutputValue.ofTexts (gathered (t.deltas.map .item)) = .text t.answer := by
  rw [deltas, List.map_map]
  exact Generation.ofTexts_gathered_leads t.reply

end Turn

/-- The messages of a chat: a text for the model, and the turns. -/
def transcript (system : String) (turns : List Turn) : List ChatMessage :=
  ⟨.system, unixLines (normalizeLiteral system)⟩ :: turns.flatMap Turn.exchange

/-- What the request of a turn shows: the turns before it and what the user says. -/
def asked (system : String) (turns : List Turn) (k : Nat) : List ChatMessage :=
  transcript system (turns.take k) ++ (turns[k]?.map fun t => ⟨.user, t.said⟩).toList

/-- One turn: something that is waited for, and an answer to it. -/
def turnInput (options : GenerationOptions) : Input φ :=
  .list [.action ((Scope.ofRole .user).wrap (some (.action (.wait "message")))),
    .action (.ai "reply" options)]

/-- A chat of some turns. -/
def chatInput (system : String) (n : Nat) (options : GenerationOptions) : Input φ :=
  .list [.action ((Scope.ofRole .system).text system),
    .action (.loop "chat" (turnInput options) { maxIterations := some n })]

theorem transcript_take_succ {system : String} {turns : List Turn} {i : Nat} {t : Turn}
    (there : turns[i]? = some t) :
    transcript system (turns.take (i + 1)) = asked system turns i ++ [⟨.assistant, t.answer⟩] := by
  rw [transcript, List.take_add_one, there, List.flatMap_append, asked, there, transcript]
  simp [Turn.exchange]

/-! ## Turns -/

section Chat

variable {host : Host φ ν} {start : Run φ ν} {llm : LlmContext} {system : String}
  {turns : List Turn} {options : GenerationOptions} {props : Props} {w : World φ ν} {i : Nat}
  {t : Turn}

/-- The connector of a chat has been asked for the answers to some turns, and the others are
left. -/
def World.Answered (llm : LlmContext) (system : String) (turns : List Turn) (i : Nat)
    (w : World φ ν) : Prop :=
  ∃ c, w.connectors[llm.completion.index]? = some c ∧
    c.script = .replies ((turns.drop i).map Turn.deltas) ∧
    c.requests.map (fun r => (r.isChat, r.prompt.messages))
      = (List.range i).map fun k => (llm.isChat, asked system turns k)

/-- The world of a chat after some turns. -/
structure ChatAfter (llm : LlmContext) (system : String) (turns : List Turn) (i : Nat)
    (w : World φ ν) : Prop where
  prompt : w.scene.prompt.messages = transcript system (turns.take i)
  last : ∀ e ∈ w.scene.prompt.getLast?, e.role ≠ .user
  outputs : w.scene.outputs = afterIterations [] id "chat" ((turns.take i).map Turn.results)
  answered : w.Answered llm system turns i
  queue : w.scene.state.items "message" = turns.map fun t => .text t.said

/-- The world of a chat after some turns, when something was said in the next one. -/
structure ChatAsked (llm : LlmContext) (system : String) (turns : List Turn) (i : Nat)
    (said : String) (w : World φ ν) : Prop where
  prompt : w.scene.prompt.messages = asked system turns i
  last : ∀ e ∈ w.scene.prompt.getLast?, e.role ≠ .assistant
  outputs : w.scene.outputs
    = [("chat", .nestedList ((turns.take i).map Turn.results ++ [[("message", .text said)]]))]
  answered : w.Answered llm system turns i
  queue : w.scene.state.items "message" = turns.map fun t => .text t.said

/-- The subtree of a turn is at its position. -/
theorem opens_turn (there : turns[i]? = some t) (short : i < indexBound) :
    Opens (afterIterations [] id "chat" ((turns.take i).map Turn.results)) ["chat", toString i]
      fun s => [("chat", .nestedList ((turns.take i).map Turn.results ++ [s]))] := by
  have before : ((turns.take i).map Turn.results).length = i := by
    have lt := (List.getElem?_eq_some_iff.1 there).1
    rw [List.length_map, List.length_take, Nat.min_eq_left (Nat.le_of_lt lt)]
  have opens := Opens.root.iteration "chat" ((turns.take i).map Turn.results) (by rwa [before])
  rwa [before] at opens

/-- A chat starts with the text for the model. -/
theorem ChatAfter.begins {e : Element} (role : e.role = .system)
    (content : e.content = unixLines (normalizeLiteral system))
    (outputs : w.scene.outputs = []) (prompt : w.scene.prompt = [])
    (scripted : w.connectors[llm.completion.index]? = some (.scripted (turns.map Turn.deltas)))
    (queue : w.scene.state.items "message" = turns.map fun t => .text t.said) :
    ChatAfter llm system turns 0 (w.consume e) where
  prompt := by
    have first : ∀ e' ∈ w.scene.prompt.getLast?, e'.role ≠ e.role := by
      rw [prompt]
      simp
    refine (Prompt.messages_concat first).trans ?_
    rw [prompt, role, content]
    rfl
  last := Prompt.last_concat (by rw [role]; exact nofun)
  outputs := outputs
  answered := ⟨_, scripted, rfl, rfl⟩
  queue := queue

/-- Something is said: the item of the turn. -/
theorem ChatAfter.ask (h : ChatAfter llm system turns i w) (there : turns[i]? = some t)
    (short : i < indexBound) :
    ChatAsked llm system turns i t.said
      ((((enterIteration w "chat" i).record ["chat", toString i] "message" (.text t.said)).emit
        (.itemConsumed "message" i)).consume ⟨t.said, .parameter, .user⟩) where
  prompt := by
    have spoken := Prompt.messages_concat (e := ⟨t.said, .parameter, .user⟩) h.last
    refine spoken.trans ?_
    rw [h.prompt, asked, there]
    rfl
  last := Prompt.last_concat nofun
  outputs := by
    change w.scene.outputs.insertAt ["chat", toString i] "message" (.text t.said) = _
    rw [h.outputs]
    exact (opens_turn there short).first _ []
  answered := h.answered
  queue := h.queue

/-- It is answered: with the next reply. -/
theorem ChatAsked.answer (h : ChatAsked llm system turns i t.said w)
    (options : GenerationOptions) (there : turns[i]? = some t) (answers : t.answer ≠ "")
    (short : i < indexBound)
    (stands : props.Stands ["chat", toString i] llm) (speaks : props.context.role = .assistant) :
    (∀ f, .failed f ∉ completionOf "reply" options props w) ∧
      ∀ items w', Generated "reply" options props w items w' →
        ChatAfter llm system turns (i + 1) w' := by
  obtain ⟨c, found, script, requests⟩ := h.answered
  have lt : i < turns.length := (List.getElem?_eq_some_iff.1 there).1
  have next : turns.drop i = t :: turns.drop (i + 1) := by
    rw [List.drop_eq_getElem_cons lt]
    exact congrArg (· :: _) (Option.some.inj ((List.getElem?_eq_getElem lt).symm.trans there))
  rw [next, List.map_cons] at script
  rw [← stands.llm] at found
  obtain ⟨given, left⟩ := askConnector_of_connector "reply" options found
  simp only [Connector.complete, script] at given left
  refine ⟨by simp [given], fun items w' generated => ?_⟩
  obtain ⟨said, rfl, spoken⟩ := generated.spoken
  rw [given, Turn.choiceText_deltas] at spoken
  have some : said.map (saidElement props.context.role) ≠ [] := by
    intro none
    rw [List.map_eq_nil_iff.1 none] at spoken
    exact answers spoken.symm
  have role : ∀ e ∈ said.map (saidElement props.context.role), e.role = .assistant := by
    intro e mem
    obtain ⟨s, -, rfl⟩ := List.mem_map.1 mem
    exact speaks
  refine ⟨?_, ?_, ?_, ?_, ?_⟩
  · rw [generated.prompt, Prompt.messages_append some role h.last, h.prompt,
      transcript_take_succ there, Prompt.text_saidElements, spoken]
  · intro e mem
    rw [generated.prompt, List.getLast?_append_of_ne_nil _ some] at mem
    rw [role e (List.mem_of_mem_getLast? mem)]
    decide
  · rw [generated.outputs, given, Turn.gathered_deltas, h.outputs, stands.address,
      Outputs.afterIterations_of_ne_nil (by simp [List.take_add_one, there]), List.take_add_one,
      there, List.map_append]
    exact (opens_turn there short).later _ [] _
  · refine ⟨_, generated.connectors ▸ stands.llm ▸ left, rfl, ?_⟩
    rw [List.map_append, requests, List.range_succ, List.map_append]
    simp [generationRequest, stands.llm, h.prompt]
  · rw [generated.state]
    exact h.queue

/-- A turn goes on with a chat. -/
theorem ChatAfter.turn (h : ChatAfter llm system turns i w) (there : turns[i]? = some t)
    (answers : t.answer ≠ "") (short : i < indexBound) (free : options.stop = none)
    (stands : props.Stands [] llm) :
    Brings host start (turnInput options) (iterationProps props "chat" i)
      (enterIteration w "chat" i) fun _ w' => ChatAfter llm system turns (i + 1) w' := by
  have place := stands.iteration "chat" i
  have index : (enterIteration w "chat" i).scene.state.currentIteration (some "chat") = i := by
    have status : (enterIteration w "chat" i).scene.state.loopStatus? "chat"
        = some (.iteration i) := Dict.find?_insert_self _ _ _
    simp [RunState.currentIteration, status]
  have item : (enterIteration w "chat" i).scene.state.item? "message" i
      = some (.text t.said) := by
    refine (congrArg (fun items : List Json => items[i]?) h.queue).trans ?_
    rw [List.getElem?_map, there]
    rfl
  have heard := h.ask there short
  have asks := (place.descend 0).ofRole .user
  have assistant := (place.descend 1).ofRole .assistant
  refine Brings.pair (Brings.wrap
    (Brings.wait index asks.address item rfl ?_))
  obtain ⟨healthy, answered⟩ := heard.answer options there answers short assistant rfl
  exact Brings.wrap ((Brings.generate (assistant.unstopped free) healthy).mono answered)

/-- After all turns, each is recorded at its position. -/
theorem ChatAfter.recorded (h : ChatAfter llm system turns turns.length w)
    (short : turns.length ≤ indexBound) {k : Nat} (there : turns[k]? = some t) :
    w.scene.outputs.lookup? ["chat", toString k, "message"] = some (.text t.said) ∧
      w.scene.outputs.lookup? ["chat", toString k, "reply"] = some (.text t.answer) := by
  obtain ⟨lt, same⟩ := List.getElem?_eq_some_iff.1 there
  have within : k < (turns.map Turn.results).length := by rwa [List.length_map]
  have some : turns.map Turn.results ≠ [] := List.ne_nil_of_length_pos (Nat.zero_lt_of_lt within)
  have results : (turns.map Turn.results)[k] = t.results := by rw [List.getElem_map, same]
  rw [h.outputs, List.take_length, Outputs.afterIterations_of_ne_nil some]
  change Outputs.lookup? [("chat", .nestedList (turns.map Turn.results))] _ = _ ∧
    Outputs.lookup? [("chat", .nestedList (turns.map Turn.results))] _ = _
  have small : k < indexBound := Nat.lt_of_lt_of_le lt short
  rw [Outputs.lookup?_entry _ within small, Outputs.lookup?_entry _ within small, results]
  exact ⟨rfl, rfl⟩

end Chat

/-- A chat whose items are there goes through all its turns. -/
theorem brings_chat {host : Host φ ν} {start : Run φ ν} {llm : Llm} (params : Json)
    {w : World φ ν} {system : String} {turns : List Turn} {options : GenerationOptions}
    (spoken : system ≠ "") (answers : ∀ t ∈ turns, t.answer ≠ "")
    (short : turns.length ≤ indexBound) (free : options.stop = none)
    (outputs : w.scene.outputs = []) (prompt : w.scene.prompt = [])
    (scripted : w.connectors[llm.completion.index]? = some (.scripted (turns.map Turn.deltas)))
    (queue : w.scene.state.items "message" = turns.map fun t => .text t.said) :
    Brings host start (chatInput system turns.length options) ⟨llm.context, params, none⟩ w
      fun _ w' => ∃ last, ChatAfter ⟨llm.completion, llm.isChat⟩ system turns turns.length last ∧
        w' = leaveLoop last "chat" turns.length := by
  have begins : ChatAfter ⟨llm.completion, llm.isChat⟩ system turns 0
      (w.consume (Element.stored ⟨normalizeLiteral system, .prompt, .system⟩)) :=
    .begins rfl rfl outputs prompt scripted queue
  have emitted : (normalizeLiteral system).isEmpty = false :=
    (isEmpty_normalizeLiteral system).trans (Bool.eq_false_iff.2 (mt String.isEmpty_iff.1 spoken))
  refine Brings.pair (Brings.text rfl emitted ?_)
  refine (Repeats.of_maxIterations host _ "chat" turns.length _).brings
    (fun i _ w => ChatAfter ⟨llm.completion, llm.isChat⟩ system turns i w)
    (fun _ => rfl) (fun _ _ _ _ same h => same ▸ h) begins fun i _ w w' lt h same => ?_
  subst same
  exact h.turn (List.getElem?_eq_getElem lt) (answers _ (List.getElem_mem lt))
    (Nat.lt_of_lt_of_le lt short) free ⟨rfl, rfl, rfl⟩

/-- A chat ends once all its items have been pushed, whenever they are, and does not fail.
Then its connector has received one request for each turn, which shows the transcript up to
what is said in that turn, the outputs hold what was said and answered in each turn, and the
loop is not running. -/
theorem chat_loop_transcript (llm : Llm) (params : Json) (w : World Empty ν)
    (fresh : w.scene = {}) (system : String) (spoken : system ≠ "") (turns : List Turn)
    (answers : ∀ t ∈ turns, t.answer ≠ "") (short : turns.length ≤ indexBound)
    (scripted : w.connectors[llm.completion.index]? = some (.scripted (turns.map Turn.deltas)))
    (options : GenerationOptions) (free : options.stop = none) (moves : List (Move ν))
    (pushes : OnlyPushes moves)
    (queued : pushed "message" moves = turns.map fun t => .text t.said) :
    let start := Run.start llm (chatInput system turns.length options) params w
    (∃ many, ∀ fuels : List Nat, (∀ fuel ∈ fuels, 0 < fuel) → many < fuels.length →
      .ended ∈ (Run.play .none (moves ++ fuels.map .poll) start).1) ∧
    (.ended ∈ (Run.play .none moves start).1 →
      let played := Run.play .none moves start
      (∀ f, .failed f ∉ played.1) ∧
      (∃ c, played.2.world.connectors[llm.completion.index]? = some c ∧
        c.requests.map (fun r => (r.isChat, r.prompt.messages))
          = (List.range turns.length).map fun k => (llm.isChat, asked system turns k)) ∧
      (∀ (k : Nat) (t : Turn), turns[k]? = some t →
        played.2.world.scene.outputs.lookup? ["chat", toString k, "message"]
            = some (.text t.said) ∧
          played.2.world.scene.outputs.lookup? ["chat", toString k, "reply"]
            = some (.text t.answer)) ∧
      played.2.world.scene.state.loopStatus? "chat" = some .notRunning) := by
  intro start
  obtain ⟨ends, atEnd⟩ := Brings.play Host.none_blind (fun _ _ => Host.none_asks _) fresh pushes
    fun q items => brings_chat params spoken answers short free
      (congrArg Scene.outputs fresh) (congrArg Scene.prompt fresh) scripted
      ((items "message").trans queued)
  refine ⟨ends, fun ended => ?_⟩
  obtain ⟨q, items, handed, last, after, world⟩ := atEnd ended
  refine ⟨not_failed_of_handedOut handed, ?_⟩
  generalize Run.play .none moves start = played at world ⊢
  -- Settling leaves alone what is asked about.
  have outputs : played.2.world.scene.outputs = last.scene.outputs :=
    (congrArg (fun w : World Empty ν => w.scene.outputs) world :)
  have connectors : played.2.world.connectors = last.connectors :=
    (congrArg (fun w : World Empty ν => w.connectors) world :)
  have loops : played.2.world.scene.state.loops
      = (last.scene.state.setLoop "chat" .notRunning).loops :=
    (congrArg (fun w : World Empty ν => w.scene.state.loops) world :)
  obtain ⟨c, found, -, requests⟩ := after.answered
  refine ⟨⟨c, connectors ▸ found, requests⟩, fun k t there => ?_, ?_⟩
  · rw [outputs]
    exact after.recorded short there
  · rw [RunState.loopStatus?, loops]
    exact Dict.find?_insert_self _ _ _

/-- A chat of two turns, the second one said while the first one is answered. -/
theorem chat_loop_transcript_of_two_turns :
    let turns : List Turn :=
      [⟨"Hello, I am Ada.", ["Hi ", "Ada."]⟩, ⟨"Goodbye.", ["", "Bye."]⟩]
    let llm : Llm := { (default : Llm) with isChat := true }
    let w : World Empty Empty := { connectors := [.scripted (turns.map Turn.deltas)] }
    let moves : List (Move Empty) :=
      [.write (.push "message" (.text "Hello, I am Ada.")), .poll 40, .poll 40, .poll 40,
        .write (.push "message" (.text "Goodbye.")), .poll 40, .poll 40, .poll 40, .poll 40]
    let played := Run.play .none moves
      (Run.start llm (chatInput "You are friendly." turns.length {}) .null w)
    .ended ∈ played.1 ∧
      (∃ c, played.2.world.connectors[0]? = some c ∧
        c.requests.map (fun r => (r.isChat, r.prompt.messages)) =
          [(true, [⟨.system, "You are friendly."⟩, ⟨.user, "Hello, I am Ada."⟩]),
            (true, [⟨.system, "You are friendly."⟩, ⟨.user, "Hello, I am Ada."⟩,
              ⟨.assistant, "Hi Ada."⟩, ⟨.user, "Goodbye."⟩])]) ∧
      played.2.world.scene.outputs.lookup? ["chat", "1", "reply"] = some (.text "Bye.") := by
  intro turns llm w moves
  have pushes : OnlyPushes moves := .of_all rfl
  have ended : .ended ∈ (Run.play .none moves
      (Run.start llm (chatInput "You are friendly." turns.length {}) .null w)).1 := by
    decide +kernel
  obtain ⟨-, ⟨c, found, requests⟩, recorded, -⟩ :=
    (chat_loop_transcript llm .null w rfl "You are friendly." (by decide) turns (by decide)
      (by decide) rfl {} rfl moves pushes rfl).2 ended
  have answer : Turn.answer ⟨"Goodbye.", ["", "Bye."]⟩ = "Bye." := by decide +kernel
  have position : toString 1 = "1" := by decide +kernel
  have reply := (recorded 1 ⟨"Goodbye.", ["", "Bye."]⟩ rfl).2
  rw [answer, position] at reply
  refine ⟨ended, ⟨c, found, requests.trans ?_⟩, reply⟩
  decide +kernel

end PromptStream
