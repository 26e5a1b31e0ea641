import ChatBot.Proofs.Bot.Course
import ChatBot.Proofs.Storage.Shelf

/-!
What a message does to the custom responses. A message that runs one of their commands does what the command decides, as if
nothing else ran beside it; every other message leaves files and shelf alone.
-/
set_option autoImplicit false

namespace ChatBot
variable {τ : Type}

/-! ## Outcomes -/

theorem World.storage_eq_iff {w w' : World τ} :
    w.storage = w'.storage ↔
      w.files = w'.files ∧ w.shelf = w'.shelf ∧ w.refusals = w'.refusals ∧ w.runtime = w'.runtime := by
  simp only [World.storage, Prod.mk.injEq]

namespace Storage.Shelf

theorem finishWrite_congr (entries : Entries) {w w' : World τ} (h : w.storage = w'.storage) :
    (finishWrite entries w).1 = (finishWrite entries w').1 ∧
      (finishWrite entries w).2.storage = (finishWrite entries w').2.storage := by
  obtain ⟨files, clock, replies, draws, shelf, last, refusals, readings, runtime⟩ := w
  obtain ⟨files', clock', replies', draws', shelf', last', refusals', readings', runtime'⟩ := w'
  obtain ⟨rfl, rfl, rfl, rfl⟩ : files = files' ∧ shelf = shelf' ∧ refusals = refusals' ∧ runtime = runtime' :=
    World.storage_eq_iff.mp h
  cases refusals with
  | nil => exact ⟨rfl, rfl⟩
  | cons refusal refusals => exact ⟨rfl, rfl⟩

end Storage.Shelf

namespace Feature.CustomResponses
open Storage

/-- What comes of writing the file at once: what is done about a success, and the world after. -/
def written (note : Note) (text : Text) (w : World τ) : List Program.Output × World τ :=
  match (Shelf.finishWrite w.shelf.entries (w.withWriting true)).1 with
  | .ok () => ([.note note, .response .reply text], (Shelf.finishWrite w.shelf.entries (w.withWriting true)).2)
  | .error _ => ([], (Shelf.finishWrite w.shelf.entries (w.withWriting true)).2)

/-- What comes of a decision that nothing else comes between: what is done and the world after. While another write is under
way nothing is written. -/
def Decision.outcome (channel : Text) (w : World τ) : Decision → List Program.Output × World τ
  | fail _ => ([], w)
  | reply text => ([.response .reply text], w)
  | change templates note text =>
    let changed := w.withEntries (w.shelf.entries.insert channel templates)
    if w.shelf.writing then ([], changed) else written note text changed

theorem written_congr (note : Note) (text : Text) {w w' : World τ} (h : w.storage = w'.storage) :
    (written note text w).1 = (written note text w').1 ∧
      (written note text w).2.storage = (written note text w').2.storage := by
  obtain ⟨hfiles, hshelf, hrefusals⟩ := World.storage_eq_iff.mp h
  have hwriting : (w.withWriting true).storage = (w'.withWriting true).storage :=
    World.storage_eq_iff.mpr ⟨hfiles, by simp only [World.withWriting, hshelf], hrefusals⟩
  obtain ⟨hresult, hstorage⟩ := Shelf.finishWrite_congr w'.shelf.entries hwriting
  rw [written, written, hshelf, hresult]
  cases (Shelf.finishWrite w'.shelf.entries (w'.withWriting true)).1 with
  | ok _ => exact ⟨rfl, hstorage⟩
  | error _ => exact ⟨rfl, hstorage⟩

theorem written_shelf (note : Note) (text : Text) (w : World τ) :
    (written note text w).2.shelf = { w.shelf with writing := false } := by
  have hshelf := Shelf.finishWrite_shelf w.shelf.entries (w.withWriting true)
  rw [written]
  cases (Shelf.finishWrite w.shelf.entries (w.withWriting true)).1 with
  | ok _ => exact hshelf
  | error _ => exact hshelf

/-- The responses after a decision about a channel. -/
def Decision.applied (channel : Text) (entries : Entries) : Decision → Entries
  | fail _ => entries
  | reply _ => entries
  | change templates _ _ => entries.insert channel templates

theorem Decision.channel_applied_change (channel : Text) (entries : Entries) (templates : Assoc Text Template) (note : Note)
    (text : Text) : ((change templates note text).applied channel entries).channel channel = templates := by
  simp [applied, Entries.channel]

theorem Decision.channel_applied_of_ne (d : Decision) {channel other : Text} (entries : Entries) (h : channel ≠ other) :
    (d.applied channel entries).channel other = entries.channel other := by
  cases d with
  | fail fault => rfl
  | reply text => rfl
  | change templates note text => simp [applied, Entries.channel, h]

theorem Decision.outcome_shelf (d : Decision) (channel : Text) (w : World τ) :
    (d.outcome channel w).2.shelf = { w.shelf with entries := d.applied channel w.shelf.entries } := by
  cases d with
  | fail fault => rfl
  | reply text => rfl
  | change templates note text =>
    rw [outcome]
    cases hwriting : w.shelf.writing with
    | true => rfl
    | false =>
      simp only [Bool.false_eq_true, if_false, written_shelf]
      simp [World.withEntries, applied, hwriting]

theorem Decision.outcome_congr (d : Decision) (channel : Text) {w w' : World τ} (h : w.storage = w'.storage) :
    (d.outcome channel w).1 = (d.outcome channel w').1 ∧
      (d.outcome channel w).2.storage = (d.outcome channel w').2.storage := by
  cases d with
  | fail fault => exact ⟨rfl, h⟩
  | reply text => exact ⟨rfl, h⟩
  | change templates note text =>
    obtain ⟨hfiles, hshelf, hrefusals⟩ := World.storage_eq_iff.mp h
    have hchanged : (w.withEntries (w.shelf.entries.insert channel templates)).storage =
        (w'.withEntries (w'.shelf.entries.insert channel templates)).storage :=
      World.storage_eq_iff.mpr ⟨hfiles, by simp only [World.withEntries, hshelf], hrefusals⟩
    rw [outcome, outcome, hshelf] at *
    cases w'.shelf.writing with
    | true => exact ⟨rfl, hchanged⟩
    | false => exact written_congr note text hchanged

end Feature.CustomResponses

namespace Bot
open Command Feature
variable [Instant τ] {bot : Bot τ} {m : Message}

/-- Beside the command nothing changes files and shelf, and the custom responses of the channel are read between the command's
turns. -/
theorem course_around_command (bot : Bot τ) (m : Message) (w : World τ) :
    let k := bot.course m w
    k.second.state.storage = k.command.state.storage ∧ k.secondRest.state.storage = k.commandRest.state.storage ∧
      k.byFirst m = (CustomResponses.saying (CustomResponses.answerTo bot.settings.leader m
        (k.command.state.shelf.entries.channel m.channel))).filterMap (Errand.responseOf? m) := by
  intro k
  let result := CustomResponses.answerTo bot.settings.leader m (k.command.state.shelf.entries.channel m.channel)
  have hfirst : k.first =
      ⟨CustomResponses.saying result, k.command.state, Program.ofExcept (result.map fun _ => ())⟩ := by
    change Program.slice _ _ _ = _
    rw [Program.slice_eq_advance, CustomResponses.advance_answer]
    rfl
  have hfirstRest : k.firstRest.outputs = [] ∧ k.firstRest.state = k.commandRest.state := by
    change (Program.slice _ k.first.rest _).outputs = [] ∧ (Program.slice _ k.first.rest _).state = _
    rw [hfirst, Program.slice_eq_advance, Program.advance_ofExcept]
    exact ⟨rfl, rfl⟩
  obtain ⟨hsecond, hrest⟩ := (Chatter.listen_keeps bot.settings m).slice quiet k.first.state
  refine ⟨hsecond.trans (by rw [hfirst]), ?_, ?_⟩
  · exact (hrest.slice Program.nowhere k.firstRest.state).1.trans (by rw [hfirstRest.2])
  · rw [Course.byFirst, hfirstRest.1, hfirst, List.append_nil]

omit [Instant τ] in
theorem responses_handlerNotes (s : Schema) (m : Message) (result : Except Fault Unit) :
    (handlerNotes s result).filterMap (Errand.responseOf? m) = [] := by
  cases result with
  | ok _ => rfl
  | error fault => rfl

omit [Instant τ] in
/-- What is left of a command writes the file and replies as if it had gone on at once. -/
theorem slice_conclude_rest {note : Note} {text : Text} {rest : Program (World τ) Unit}
    (hrest : CustomResponses.FinishesWith note text rest) (s : Schema) (m : Message) {v : World τ}
    (hfree : v.shelf.writing = false) :
    ((s.conclude rest).slice Program.nowhere v).outputs.filterMap (Errand.responseOf? m) =
        (CustomResponses.written note text v).1.filterMap (Errand.responseOf? m) ∧
      ((s.conclude rest).slice Program.nowhere v).state = (CustomResponses.written note text v).2 := by
  rw [Program.slice_eq_advance, CustomResponses.written]
  rcases Storage.Shelf.finishWrite_fst v.shelf.entries (v.withWriting true) with hok | ⟨fault, -, herror⟩
  · rw [s.advance_conclude_of_ended (hrest.stored v _ hfree (Prod.ext hok rfl)), hok]
    exact ⟨rfl, rfl⟩
  · rw [s.advance_conclude_of_ended (hrest.failed v _ fault hfree (Prod.ext herror rfl)), herror]
    exact ⟨rfl, rfl⟩

theorem course_of_operation (w : World τ) {s : Schema} {bindings : Bindings}
    {op : CustomResponses.Operation} (h : bot.registry.route m = .call s bindings op.handler) :
    let outcome := (op.decide ⟨s, bindings⟩ m.channel (w.shelf.entries.channel m.channel)).outcome m.channel w
    let k := bot.course m w
    k.byCommand m = outcome.1.filterMap (Errand.responseOf? m) ∧ k.secondRest.state.storage = outcome.2.storage ∧
      k.command.state.shelf.entries = outcome.2.shelf.entries := by
  intro outcome k
  obtain ⟨hsecond, hlast, -⟩ := course_around_command bot m w
  have hrest : k.commandRest = k.command.rest.slice Program.nowhere k.second.state := rfl
  have hbegins := CustomResponses.begins_handler (w := w) (show quiet .write = true from rfl) op ⟨s, bindings⟩ m
  -- A handler that ends in its first turn leaves nothing to do once the passive handlers have had theirs.
  have hover {outputs : List Program.Output} {result : Except Fault Unit}
      (hturn : (op.handler ⟨s, bindings⟩ m).advance quiet w = ⟨outputs, w, .ended result⟩) :
      k.byCommand m = outputs.filterMap (Errand.responseOf? m) ∧ k.secondRest.state.storage = w.storage ∧
        k.command.state = w := by
    have hcommand : k.command = _ := Registry.slice_dispatch_of_ended h hturn
    rw [hcommand] at hrest
    refine ⟨?_, ?_, by rw [hcommand]⟩
    · have hdone : k.commandRest.outputs = [] := by rw [hrest]; rfl
      rw [Course.byCommand, hdone, hcommand, List.append_nil, List.filterMap_cons_none rfl, List.filterMap_append,
        responses_handlerNotes, List.append_nil]
    · rw [hlast, hrest]
      exact hsecond.trans (by rw [hcommand])
  cases hdecision : op.decide ⟨s, bindings⟩ m.channel (w.shelf.entries.channel m.channel) with
  | fail fault =>
    rw [hdecision] at hbegins
    obtain ⟨hby, hstorage, hstate⟩ := hover hbegins
    simp only [outcome, hdecision]
    exact ⟨hby, hstorage, by rw [hstate]; rfl⟩
  | reply text =>
    rw [hdecision] at hbegins
    obtain ⟨hby, hstorage, hstate⟩ := hover hbegins
    simp only [outcome, hdecision]
    exact ⟨hby, hstorage, by rw [hstate]; rfl⟩
  | change templates note text =>
    rw [hdecision] at hbegins
    obtain ⟨rest, hfinishes, hturn⟩ := hbegins
    have hcommand : k.command = _ := Registry.slice_dispatch_of_stopped h hturn
    rw [hcommand] at hrest
    -- The writing goes on behind the passive handlers, which have left files and shelf as the change made them.
    let changed := w.withEntries (w.shelf.entries.insert m.channel templates)
    have hstorage : k.second.state.storage = changed.storage := hsecond.trans (by rw [hcommand])
    have hshelf : k.second.state.shelf = changed.shelf := (World.storage_eq_iff.mp hstorage).2.1
    have hentries : k.command.state.shelf.entries = changed.shelf.entries := by rw [hcommand]
    have hby : k.byCommand m = k.commandRest.outputs.filterMap (Errand.responseOf? m) := by
      rw [Course.byCommand, hcommand]
      rfl
    simp only [outcome, hdecision, CustomResponses.Decision.outcome]
    rw [hby, hlast, hrest, hentries]
    cases hwriting : w.shelf.writing with
    | true =>
      obtain ⟨rest', hbusy⟩ := hfinishes.busy k.second.state (by rw [hshelf]; exact hwriting)
      rw [Program.slice_eq_advance, s.advance_conclude_of_stopped hbusy]
      exact ⟨rfl, hstorage, rfl⟩
    | false =>
      obtain ⟨hsaid, hstate⟩ := slice_conclude_rest hfinishes s m (by rw [hshelf]; exact hwriting)
      obtain ⟨hsame, hafter⟩ := CustomResponses.written_congr note text hstorage
      rw [hsaid, hstate, hsame, hafter]
      exact ⟨rfl, rfl, (congrArg Shelf.entries (CustomResponses.written_shelf note text changed)).symm⟩

theorem course_of_keeps (w : World τ) (h : (bot.registry.dispatch m).Keeps World.storage) :
    let k := bot.course m w
    k.command.state.storage = w.storage ∧ k.secondRest.state.storage = w.storage := by
  intro k
  obtain ⟨hsecond, hlast, -⟩ := course_around_command bot m w
  obtain ⟨hcommand, hrest⟩ := h.slice quiet w
  exact ⟨hcommand, (hlast.trans (hrest.slice Program.nowhere k.second.state).1).trans (hsecond.trans hcommand)⟩

/-- A message runs a command for custom responses, for which its sender has the privileges, or leaves files and shelf alone. -/
theorem IsFull.runs_operation_or_keeps (hbot : bot.IsFull) (m : Message) :
    (∃ s bindings op, bot.registry.route m = .call s bindings (CustomResponses.Operation.handler op) ∧
      s.name = op.name ∧ m.isElevated = true) ∨
    ((∀ s bindings handler, bot.registry.route m = .call s bindings handler →
      ∀ op : CustomResponses.Operation, s.name ≠ op.name) ∧ (bot.registry.dispatch m).Keeps World.storage) := by
  by_cases h : ∃ s bindings op, bot.registry.route m = .call s bindings (CustomResponses.Operation.handler op) ∧
      s.name = op.name ∧ m.isElevated = true
  · exact .inl h
  obtain ⟨started, hregistry⟩ := hbot.registry
  have hcall {s : Schema} {bindings : Bindings} {handler : Handler (World τ)}
      (hroute : bot.registry.route m = .call s bindings handler) :
      (∀ op : CustomResponses.Operation, s.name ≠ op.name) ∧ ∀ args m, (handler args m).Keeps World.storage := by
    obtain ⟨-, -, c, hc, rfl, rfl, hallowed⟩ := Registry.exists_of_route_eq_call hroute
    rcases operation_or_keeps (hregistry ▸ hc) with ⟨usage, op, rfl⟩ | hkeeps
    · exact absurd ⟨_, _, op, hroute, rfl, hallowed rfl⟩ h
    · exact hkeeps
  exact .inr ⟨fun s bindings handler hroute => (hcall hroute).1,
    Registry.dispatch_keeps fun s bindings handler hroute => (hcall hroute).2 _ m⟩

theorem IsFull.entries_handle_of_operation (hbot : bot.IsFull) {w : World τ} {s : Schema} {bindings : Bindings}
    {op : CustomResponses.Operation} (h : bot.registry.route m = .call s bindings op.handler) :
    (bot.handle m w).2.1.shelf.entries =
      (op.decide ⟨s, bindings⟩ m.channel (w.shelf.entries.channel m.channel)).applied m.channel w.shelf.entries := by
  obtain ⟨-, hstorage, -⟩ := course_of_operation w h
  rw [(hbot.handle_eq_course m w).2, (World.storage_eq_iff.mp hstorage).2.1, CustomResponses.Decision.outcome_shelf]

theorem IsFull.entries_handle_of_keeps (hbot : bot.IsFull) (w : World τ) (h : (bot.registry.dispatch m).Keeps World.storage) :
    (bot.handle m w).2.1.shelf.entries = w.shelf.entries := by
  rw [(hbot.handle_eq_course m w).2, (World.storage_eq_iff.mp (course_of_keeps w h).2).2.1]

/-- A message leaves the custom responses as they are or does with them what a command decides, whatever becomes of the file. -/
theorem IsFull.entries_handle (hbot : bot.IsFull) (m : Message) (w : World τ) :
    (bot.handle m w).2.1.shelf.entries = w.shelf.entries ∨
      ∃ (op : CustomResponses.Operation) (args : Arguments), (bot.handle m w).2.1.shelf.entries =
        (op.decide args m.channel (w.shelf.entries.channel m.channel)).applied m.channel w.shelf.entries := by
  rcases hbot.runs_operation_or_keeps m with ⟨s, bindings, op, hroute, -, -⟩ | ⟨-, hkeeps⟩
  · exact .inr ⟨op, ⟨s, bindings⟩, hbot.entries_handle_of_operation hroute⟩
  · exact .inl (hbot.entries_handle_of_keeps w hkeeps)

end Bot
end ChatBot
