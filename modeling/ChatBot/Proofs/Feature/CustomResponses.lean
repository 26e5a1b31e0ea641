import ChatBot.Bot
import ChatBot.Proofs.Program.Frame
import ChatBot.Proofs.Program.Runs
import ChatBot.Proofs.Storage.Shelf
import ChatBot.Proofs.Template.Filling

/-!
What the commands for custom responses do, and what a message is answered with. Each command decides by its arguments and the
responses of its channel alone; then it fails, replies, or changes the channel's responses in its first turn and writes the
file and replies later.
-/
set_option autoImplicit false

namespace ChatBot

namespace Storage.Shelf
variable {τ : Type}

/-! ## Writing the file -/

/-- What is left of a change once it has been made in memory. -/
def writeOut : Program (World τ) Unit := do
  Program.waitUntil (! ·.shelf.writing)
  let entries ← Program.update beginWrite
  Program.yield .write
  Program.ofExcept (← Program.update (finishWrite entries))

theorem advance_writeOut_of_busy {w : World τ} (h : w.shelf.writing = true) :
    writeOut.advance Program.nowhere w = ⟨[], w, .stopped writeOut⟩ := by
  change (if (!w.shelf.writing) = true then _ else _) = _
  rw [h]
  rfl

theorem advance_writeOut_of_free {w : World τ} (h : w.shelf.writing = false) :
    writeOut.advance Program.nowhere w =
      ⟨[], (finishWrite w.shelf.entries (w.withWriting true)).2,
        .ended (finishWrite w.shelf.entries (w.withWriting true)).1⟩ := by
  change (if (!w.shelf.writing) = true then _ else _) = _
  rw [h]
  exact Program.advance_ofExcept Program.nowhere _ _

theorem writeOut_keeps : (writeOut : Program (World τ) Unit).Keeps fun w => w.shelf.entries := by
  have hfinish : ∀ entries (w : World τ), (finishWrite entries w).2.shelf.entries = w.shelf.entries :=
    fun entries w => by rw [finishWrite_shelf]
  exact (Program.keeps_waitUntil _).bind fun _ => (Program.keeps_update fun _ => rfl).bind fun entries =>
    (Program.keeps_yield _).bind fun _ => (Program.keeps_update (hfinish entries)).bind fun _ => Program.keeps_ofExcept _

/-- Writing the file does nothing else, and if it fails then because of the file or the text. -/
theorem yields_writeOut {outputs : List Program.Output} {ending : Except Fault Unit}
    (h : (writeOut : Program (World τ) Unit).Yields outputs ending) :
    outputs = [] ∧ (ending = .ok () ∨ ∃ fault, WriteFault fault ∧ ending = .error fault) := by
  change (Program.await _ (.read fun w => .write (w.withWriting true) (.pause .write (.read fun w' =>
    .write (finishWrite w.shelf.entries w').2 (Program.ofExcept (finishWrite w.shelf.entries w').1))))).Yields _ _ at h
  rw [Program.yields_await_iff, Program.yields_read_iff] at h
  obtain ⟨w, h⟩ := h
  rw [Program.yields_write_iff, Program.yields_pause_iff, Program.yields_read_iff] at h
  obtain ⟨w', h⟩ := h
  rw [Program.yields_write_iff, Program.yields_ofExcept_iff] at h
  obtain ⟨rfl, rfl⟩ := h
  exact ⟨rfl, finishWrite_fst _ w'⟩

variable {stops : Pause → Bool} {w : World τ} {channel name body : Text}

theorem advance_save (hstops : stops .write = true) : save.advance stops w = ⟨[], w, .stopped writeOut⟩ := by
  change (if stops .write = true then _ else _) = _
  rw [if_pos hstops]
  rfl

theorem advance_set (hstops : stops .write = true) {template : Template} (h : Template.compile name body = .ok template) :
    (set channel name body).advance stops w =
      ⟨[], w.withEntries (w.shelf.entries.set channel name template), .stopped writeOut⟩ := by
  rw [set, h]
  exact advance_save hstops

theorem advance_remove (hstops : stops .write = true) (h : (w.shelf.entries.get? channel name).isSome = true) :
    (remove channel name).advance stops w =
      ⟨[], w.withEntries (w.shelf.entries.remove channel name), .stopped (writeOut >>= fun _ => pure true)⟩ := by
  have htake : takeOut channel name w = (true, w.withEntries (w.shelf.entries.remove channel name)) := if_pos h
  change Program.advance stops (if (takeOut channel name w).1 = true then _ else _) (takeOut channel name w).2 = _
  rw [htake]
  exact Program.advance_bind_of_stopped (advance_save hstops) _

end Storage.Shelf

namespace Feature.CustomResponses
variable {τ : Type}
open Storage

/-! ## Decisions -/

inductive Operation where
  | set
  | add
  | edit
  | remove
  deriving DecidableEq

/-- What a command does: it fails, it replies, or it gives the channel other responses, and then notes that and replies. -/
inductive Decision where
  | fail (fault : Fault)
  | reply (text : Text)
  | change (templates : Assoc Text Template) (note : Note) (text : Text)

def decideUpdate (channel name : Text) (body : Option Text) (templates : Assoc Text Template) : Decision :=
  match body with
  | none => .reply emptyBody
  | some body =>
    if isChatCommand body then .reply refused
    else match Template.compile name body with
      | .error e => .reply ("invalid body: " ++ e.message)
      | .ok template =>
        .change (templates.insert name template)
          (.info ("responses.update channel=" ++ channel ++ " name=" ++ Text.quote name ++ " body=" ++ Text.quote body))
          (updated name body)

def decideRemoval (channel name : Text) (templates : Assoc Text Template) : Decision :=
  if (templates.find? name).isSome then
    .change (templates.erase name) (.info ("responses.remove channel=" ++ channel ++ " name=" ++ name)) (removed name)
  else .reply (doesNotExist name)

namespace Operation

def name : Operation → Text
  | set => "set"
  | add => "add"
  | edit => "edit"
  | remove => "remove"

def slots : Operation → List Command.Slot
  | set | add | edit => [⟨"command", .required⟩, ⟨"body", .flexible⟩]
  | remove => [⟨"command", .required⟩]

def handler : Operation → Command.Handler (World τ)
  | set => setHandler
  | add => addHandler
  | edit => editHandler
  | remove => removeHandler

def decideOn (channel name : Text) (body : Option Text) (templates : Assoc Text Template) : Operation → Decision
  | set => decideUpdate channel name body templates
  | add =>
    if (templates.find? name).isSome then .reply (alreadyExists name) else decideUpdate channel name body templates
  | edit =>
    if (templates.find? name).isSome then decideUpdate channel name body templates else .reply (doesNotExist name)
  | remove => decideRemoval channel name templates

/-- The decision of a command on a channel with these responses. -/
def decide (op : Operation) (args : Command.Arguments) (channel : Text) (templates : Assoc Text Template) : Decision :=
  match args.get? "command" with
  | none => .fail (.missingKey "command")
  | some name => op.decideOn channel name (args.getNonEmpty? "body") templates

end Operation

/-- The replies about a body that is not stored. -/
inductive RejectsBody : Text → Prop
  | empty : RejectsBody emptyBody
  | refused : RejectsBody refused
  | invalid (error : TemplateError) : RejectsBody ("invalid body: " ++ error.message)

theorem RejectsBody.front? {text : Text} (h : RejectsBody text) :
    Text.front? text = some 't' ∨ Text.front? text = some 'l' ∨ Text.front? text = some 'i' := by
  cases h with
  | empty => exact .inl rfl
  | refused => exact .inr (.inl rfl)
  | invalid error =>
    have hfront : Text.front? ("invalid body: " : Text) = some 'i' := rfl
    exact .inr (.inr (by rw [Text.front?_append_of_isSome _ (by rw [hfront]; rfl), hfront]))

/-- A body is stored as it was given, under the name it was given for, or it is rejected. -/
theorem decideUpdate_cases (channel name : Text) (body : Option Text) (templates : Assoc Text Template) :
    (∃ text, decideUpdate channel name body templates = .reply text ∧ RejectsBody text) ∨
      ∃ given note, body = some given ∧ isChatCommand given = false ∧ Template.compile name given = .ok ⟨name, given⟩ ∧
        decideUpdate channel name body templates =
          .change (templates.insert name ⟨name, given⟩) note (updated name given) := by
  cases body with
  | none => exact .inl ⟨emptyBody, rfl, .empty⟩
  | some body =>
    rw [decideUpdate]
    split
    · exact .inl ⟨refused, rfl, .refused⟩
    · rename_i hguard
      split
      · exact .inl ⟨_, rfl, .invalid _⟩
      · rename_i template htemplate
        obtain rfl := Template.compile_eq_ok htemplate
        exact .inr ⟨body, _, rfl, by simpa using hguard, htemplate, rfl⟩

theorem front?_marked (name rest : Text) : Text.front? (marked name ++ rest) = some '\'' :=
  Text.front?_cons_of_not_blank _ rfl

theorem Operation.decideOn_cases (op : Operation) (channel name : Text) (body : Option Text) (templates : Assoc Text Template) :
    (∃ text, op.decideOn channel name body templates = .reply text ∧ Text.front? text ≠ some 'u') ∨
    (∃ given note, body = some given ∧ isChatCommand given = false ∧ Template.compile name given = .ok ⟨name, given⟩ ∧
      op.decideOn channel name body templates = .change (templates.insert name ⟨name, given⟩) note (updated name given)) ∨
    ∃ note, op.decideOn channel name body templates = .change (templates.erase name) note (removed name) := by
  have hmarked : ∀ rest : Text, Text.front? (marked name ++ rest) ≠ some 'u' := by
    intro rest
    rw [front?_marked]
    decide
  have hrejects : ∀ {text : Text}, RejectsBody text → Text.front? text ≠ some 'u' := by
    intro text h
    rcases h.front? with h | h | h <;> rw [h] <;> decide
  have hupdate := (decideUpdate_cases channel name body templates).imp_left
    (Exists.imp fun text => And.imp_right hrejects)
  cases op with
  | set => exact hupdate.imp_right .inl
  | add =>
    rw [decideOn]
    split
    · exact .inl ⟨_, rfl, hmarked _⟩
    · exact hupdate.imp_right .inl
  | edit =>
    rw [decideOn]
    split
    · exact hupdate.imp_right .inl
    · exact .inl ⟨_, rfl, hmarked _⟩
  | remove =>
    rw [decideOn, decideRemoval]
    split
    · exact .inr (.inr ⟨_, rfl⟩)
    · exact .inl ⟨_, rfl, hmarked _⟩

/-- What a command may decide: only what it was given is ever stored or taken out. -/
theorem Operation.decide_cases (op : Operation) (args : Command.Arguments) (channel : Text) (templates : Assoc Text Template) :
    (∃ fault, op.decide args channel templates = .fail fault) ∨
    (∃ text, op.decide args channel templates = .reply text ∧ Text.front? text ≠ some 'u') ∨
    (∃ name body note, args.get? "command" = some name ∧ args.getNonEmpty? "body" = some body ∧
      isChatCommand body = false ∧ Template.compile name body = .ok ⟨name, body⟩ ∧
      op.decide args channel templates = .change (templates.insert name ⟨name, body⟩) note (updated name body)) ∨
    ∃ name note, args.get? "command" = some name ∧
      op.decide args channel templates = .change (templates.erase name) note (removed name) := by
  unfold decide
  cases args.get? "command" with
  | none => exact .inl ⟨_, rfl⟩
  | some name =>
    right
    rcases op.decideOn_cases channel name (args.getNonEmpty? "body") templates with
      hreply | ⟨body, note, hbody, hguard, htemplate, hchange⟩ | ⟨note, hchange⟩
    · exact .inl hreply
    · exact .inr (.inl ⟨name, body, note, rfl, hbody, hguard, htemplate, hchange⟩)
    · exact .inr (.inr ⟨name, note, rfl, hchange⟩)

/-! ## The turns of a command -/

/-- What is left of a command that changed memory: once it may write, it writes the file, and replies if that succeeds. -/
structure FinishesWith (note : Note) (text : Text) (rest : Program (World τ) Unit) : Prop where
  keeps : rest.Keeps fun w => w.shelf.entries
  yields : ∀ outputs ending, rest.Yields outputs ending →
    outputs = [.note note, .response .reply text] ∧ ending = .ok () ∨ outputs = [] ∧ ∃ fault, ending = .error fault
  busy : ∀ w, w.shelf.writing = true → ∃ rest', rest.advance Program.nowhere w = ⟨[], w, .stopped rest'⟩
  stored : ∀ w w', w.shelf.writing = false → Shelf.finishWrite w.shelf.entries (w.withWriting true) = (.ok (), w') →
    rest.advance Program.nowhere w = ⟨[.note note, .response .reply text], w', .ended (.ok ())⟩
  failed : ∀ w w' fault, w.shelf.writing = false →
    Shelf.finishWrite w.shelf.entries (w.withWriting true) = (.error fault, w') →
    rest.advance Program.nowhere w = ⟨[], w', .ended (.error fault)⟩

/-- The first turn of a command on a channel is as decided. -/
def Decision.Begins (channel : Text) (w : World τ) : Decision → Program.Advance (World τ) Unit → Prop
  | fail fault, x => x = ⟨[], w, .ended (.error fault)⟩
  | reply text, x => x = ⟨[.response .reply text], w, .ended (.ok ())⟩
  | change templates note text, x => ∃ rest : Program (World τ) Unit, FinishesWith note text rest ∧
      x = ⟨[], w.withEntries (w.shelf.entries.insert channel templates), .stopped rest⟩

/-- A command finishes so if it does with the end of the writing what it has to. -/
theorem finishesWith_of_advance {note : Note} {text : Text} {rest : Program (World τ) Unit}
    (hkeeps : rest.Keeps fun w => w.shelf.entries)
    (hyields : ∀ outputs ending, rest.Yields outputs ending →
      outputs = [.note note, .response .reply text] ∧ ending = .ok () ∨ outputs = [] ∧ ∃ fault, ending = .error fault)
    (conclude : Program.Advance (World τ) Unit → Program.Advance (World τ) Unit)
    (hrest : ∀ w, rest.advance Program.nowhere w = conclude (Shelf.writeOut.advance Program.nowhere w))
    (hstopped : ∀ w p, ∃ rest', conclude ⟨[], w, .stopped p⟩ = ⟨[], w, .stopped rest'⟩)
    (hok : ∀ w, conclude ⟨[], w, .ended (.ok ())⟩ = ⟨[.note note, .response .reply text], w, .ended (.ok ())⟩)
    (herror : ∀ w fault, Shelf.WriteFault fault →
      conclude ⟨[], w, .ended (.error fault)⟩ = ⟨[], w, .ended (.error fault)⟩) :
    FinishesWith note text rest := by
  refine ⟨hkeeps, hyields, fun w hbusy => ?_, fun w w' hfree hwrite => ?_, fun w w' fault hfree hwrite => ?_⟩
  · rw [hrest, Shelf.advance_writeOut_of_busy hbusy]
    exact hstopped w _
  · rw [hrest, Shelf.advance_writeOut_of_free hfree, hwrite]
    exact hok w'
  · rw [hrest, Shelf.advance_writeOut_of_free hfree, hwrite]
    exact herror w' fault (Shelf.writeFault_of_finishWrite hwrite)

def announce (note : Note) (text : Text) : Program (World τ) Unit := do
  Program.record note
  Program.reply text

theorem announce_keeps (note : Note) (text : Text) :
    (announce note text : Program (World τ) Unit).Keeps fun w => w.shelf.entries :=
  (Program.keeps_record _).bind fun _ => Program.keeps_reply _

theorem yields_announce {note : Note} {text : Text} {outputs : List Program.Output} {ending : Except Fault Unit}
    (h : (announce note text : Program (World τ) Unit).Yields outputs ending) :
    outputs = [.note note, .response .reply text] ∧ ending = .ok () := by
  obtain ⟨_, rfl, hreply⟩ := Program.yields_note_iff.mp h
  obtain ⟨_, rfl, hdone⟩ := Program.yields_respond_iff.mp hreply
  obtain ⟨rfl, rfl⟩ := Program.yields_done_iff.mp hdone
  exact ⟨rfl, rfl⟩

theorem finishesWith_attempt {note : Note} {text : Text} {next : Except Fault Unit → Program (World τ) Unit}
    (hkeeps : ∀ result, (next result).Keeps fun w => w.shelf.entries) (hok : next (.ok ()) = announce note text)
    (herror : ∀ fault, Shelf.WriteFault fault → next (.error fault) = .raise fault) :
    FinishesWith note text (Shelf.writeOut.attempt >>= next) := by
  refine finishesWith_of_advance (Shelf.writeOut_keeps.attempt.bind hkeeps) (fun outputs ending h => ?_)
    (fun x => Program.Advance.andThen ⟨x.outputs, x.state, x.stand.attempted⟩ Program.nowhere next) (fun w => ?_)
    (fun _ _ => ⟨_, rfl⟩) (fun w => ?_) fun w fault hfault => ?_
  · obtain ⟨result, first, second, hfirst, hsecond, rfl⟩ | ⟨fault, hfirst, rfl⟩ := Program.yields_bind_iff.mp h
    · obtain ⟨_, hresult, hwrite⟩ := Program.yields_attempt_iff.mp hfirst
      cases hresult
      obtain ⟨rfl, rfl | ⟨fault, hfault, rfl⟩⟩ := Shelf.yields_writeOut hwrite
      · rw [hok] at hsecond
        exact .inl (yields_announce hsecond)
      · rw [herror fault hfault] at hsecond
        obtain ⟨rfl, rfl⟩ := Program.yields_raise_iff.mp hsecond
        exact .inr ⟨rfl, _, rfl⟩
    · obtain ⟨_, hresult, -⟩ := Program.yields_attempt_iff.mp hfirst
      cases hresult
  · change (Shelf.writeOut.attempt.bind next).advance Program.nowhere w = _
    rw [Program.advance_bind, Program.advance_attempt]
  · change ((next (.ok ())).advance Program.nowhere w).following [] = _
    rw [hok]
    rfl
  · change ((next (.error fault)).advance Program.nowhere w).following [] = _
    rw [herror fault hfault]
    rfl

theorem finishesWith_true {note : Note} {text : Text} {next : Bool → Program (World τ) Unit}
    (hkeeps : ∀ there, (next there).Keeps fun w => w.shelf.entries) (hok : next true = announce note text) :
    FinishesWith note text ((Shelf.writeOut >>= fun _ => pure true) >>= next) := by
  refine finishesWith_of_advance ((Shelf.writeOut_keeps.bind fun _ => Program.keeps_pure _).bind hkeeps)
    (fun outputs ending h => ?_)
    (fun x => (x.andThen Program.nowhere fun _ => .done true).andThen Program.nowhere next)
    (fun w => ?_) (fun _ _ => ⟨_, rfl⟩) (fun w => ?_) fun _ _ _ => rfl
  · obtain ⟨there, first, second, hfirst, hsecond, rfl⟩ | ⟨fault, hfirst, rfl⟩ := Program.yields_bind_iff.mp h
    · obtain ⟨_, third, fourth, hwrite, hpure, rfl⟩ | ⟨fault, -, hfault⟩ := Program.yields_bind_iff.mp hfirst
      · obtain ⟨rfl, -⟩ := Shelf.yields_writeOut hwrite
        obtain ⟨rfl, hthere⟩ := Program.yields_done_iff.mp hpure
        obtain rfl := Except.ok.inj hthere
        rw [hok] at hsecond
        exact .inl (yields_announce hsecond)
      · cases hfault
    · obtain ⟨_, third, fourth, -, hpure, -⟩ | ⟨fault, hwrite, -⟩ := Program.yields_bind_iff.mp hfirst
      · cases (Program.yields_done_iff.mp hpure).2
      · exact .inr ⟨(Shelf.yields_writeOut hwrite).1, _, rfl⟩
  · change ((Shelf.writeOut.bind fun _ => .done true).bind next).advance Program.nowhere w = _
    rw [Program.advance_bind, Program.advance_bind]
  · change ((next true).advance Program.nowhere w).following [] = _
    rw [hok]
    rfl

section
variable {stops : Pause → Bool} {w : World τ}

theorem begins_update (hstops : stops .write = true) (channel name : Text) (body : Option Text) :
    (decideUpdate channel name body (w.shelf.entries.channel channel)).Begins channel w
      ((update channel name body).advance stops w) := by
  cases body with
  | none => rfl
  | some body =>
    by_cases hguard : isChatCommand body = true
    · simp only [decideUpdate, update, hguard, if_true]
      rfl
    cases htemplate : Template.compile name body with
    | error e =>
      simp only [decideUpdate, update, hguard, Shelf.set, htemplate]
      rfl
    | ok template =>
      have hset : (Shelf.set channel name body).attempt.advance stops w =
          ⟨[], w.withEntries (w.shelf.entries.set channel name template), .stopped Shelf.writeOut.attempt⟩ := by
        rw [Program.advance_attempt, Shelf.advance_set hstops htemplate]
        rfl
      simp only [decideUpdate, update, hguard, htemplate]
      refine ⟨_, finishesWith_attempt (fun result => ?_) rfl fun fault hfault => ?_,
        Program.advance_bind_of_stopped hset _⟩
      · split
        · exact announce_keeps _ _
        · exact Program.keeps_reply _
        · exact Program.keeps_fail _
      · cases hfault <;> rfl

theorem begins_ifContained {channel name : Text} {present absent : Decision}
    {p q : Program (World τ) Unit} (hp : present.Begins channel w (p.advance stops w))
    (hq : absent.Begins channel w (q.advance stops w)) :
    (if ((w.shelf.entries.channel channel).find? name).isSome then present else absent).Begins channel w
      ((Shelf.contains channel name >>= fun there => if there then p else q).advance stops w) := by
  change Decision.Begins _ _ _ (Program.advance stops
    (if ((w.shelf.entries.channel channel).find? name).isSome = true then p else q) w)
  split
  · exact hp
  · exact hq

theorem begins_removal (hstops : stops .write = true) (channel name : Text) :
    (decideRemoval channel name (w.shelf.entries.channel channel)).Begins channel w
      (Program.advance stops (do
        if ← Shelf.remove channel name then
          Program.record (.info ("responses.remove channel=" ++ channel ++ " name=" ++ name))
          Program.reply (removed name)
        else Program.reply (doesNotExist name)) w) := by
  rw [decideRemoval]
  by_cases hthere : ((w.shelf.entries.channel channel).find? name).isSome = true
  · rw [if_pos hthere]
    refine ⟨_, finishesWith_true (fun there => ?_) rfl,
      Program.advance_bind_of_stopped (Shelf.advance_remove hstops hthere) _⟩
    split
    · exact announce_keeps _ _
    · exact Program.keeps_reply _
  · have htake : Shelf.takeOut channel name w = (false, w) := if_neg hthere
    rw [if_neg hthere, Shelf.remove]
    change Program.advance stops (Program.bind
      (if (Shelf.takeOut channel name w).1 = true then _ else _) _) (Shelf.takeOut channel name w).2 = _
    rw [htake]
    rfl

theorem begins_handler (hstops : stops .write = true) (op : Operation) (args : Command.Arguments) (m : Message) :
    (op.decide args m.channel (w.shelf.entries.channel m.channel)).Begins m.channel w
      ((op.handler args m).advance stops w) := by
  cases hname : args.get? "command" with
  | none =>
    have hget : (args.get "command" : Program (World τ) Text) = .raise (.missingKey "command") := by
      rw [Command.Arguments.get, hname]
      rfl
    simp only [Operation.decide, hname]
    cases op <;> simp only [Operation.handler, setHandler, addHandler, editHandler, removeHandler, hget] <;> rfl
  | some name =>
    have hget : (args.get "command" : Program (World τ) Text) = .done name := by
      rw [Command.Arguments.get, hname]
      rfl
    have hupdate := begins_update (w := w) hstops m.channel name (args.getNonEmpty? "body")
    simp only [Operation.decide, hname]
    cases op with
    | set =>
      simp only [Operation.handler, setHandler, hget]
      exact hupdate
    | add =>
      simp only [Operation.handler, addHandler, hget]
      exact begins_ifContained rfl hupdate
    | edit =>
      simp only [Operation.handler, editHandler, hget]
      exact begins_ifContained hupdate rfl
    | remove =>
      simp only [Operation.handler, removeHandler, hget]
      exact begins_removal hstops m.channel name

end

/-! ## Answers -/

/-- The text that answers a message on a channel with these responses, if there is one. -/
def answerTo (leader : Char) (m : Message) (templates : Assoc Text Template) : Except Fault (Option Text) :=
  match (requestedName? leader m).bind templates.find? with
  | none => .ok none
  | some template => ((template.apply (environment m)).mapError Fault.template).map some

def saying : Except Fault (Option Text) → List Program.Output
  | .ok (some text) => [.response .say text]
  | _ => []

/-- An answer is given in one turn, by the responses that the message's channel has then, and changes nothing. -/
theorem advance_answer (stops : Pause → Bool) (leader : Char) (m : Message) (w : World τ) :
    let result := answerTo leader m (w.shelf.entries.channel m.channel)
    (answer leader m).advance stops w = ⟨saying result, w, .ended (result.map fun _ => ())⟩ := by
  intro result
  have hget (name : Text) (next : Option Template → Program (World τ) Unit) :
      (Shelf.get? m.channel name >>= next).advance stops w =
        (next ((w.shelf.entries.channel m.channel).find? name)).advance stops w := rfl
  cases hname : requestedName? leader m with
  | none =>
    simp only [result, answer, answerTo, hname]
    rfl
  | some name =>
    simp only [result, answer, answerTo, hname, hget, Option.bind_some]
    cases (w.shelf.entries.channel m.channel).find? name with
    | none => rfl
    | some template =>
      simp only
      cases template.apply (environment m) with
      | error e => rfl
      | ok filled => rfl

end Feature.CustomResponses
end ChatBot
