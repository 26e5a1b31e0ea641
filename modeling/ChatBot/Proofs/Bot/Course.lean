import ChatBot.Proofs.Bot.Registrations
import ChatBot.Proofs.Command.Call
import ChatBot.Proofs.Program.Workload

/-!
How a bot with all features handles a message: its command, the custom responses and the chatter take one turn each, and then
go on to their ends in the same order. What each of them says can be told apart by these turns.
-/
set_option autoImplicit false

namespace ChatBot
variable {σ τ : Type}

/-- The turns in which a command and two passive handlers work for a message. -/
structure Course (σ : Type) where
  command : Program.Slice σ Bool
  first : Program.Slice σ Unit
  second : Program.Slice σ Unit
  commandRest : Program.Slice σ Bool
  firstRest : Program.Slice σ Unit
  secondRest : Program.Slice σ Unit

namespace Course

/-- Each program's first turn, and then what is left of each. -/
def run (stops : Pause → Bool) (p : Program σ Bool) (a b : Program σ Unit) (s : σ) : Course σ :=
  let command := p.slice stops s
  let first := a.slice stops command.state
  let second := b.slice stops first.state
  let commandRest := command.rest.slice Program.nowhere second.state
  let firstRest := first.rest.slice Program.nowhere commandRest.state
  let secondRest := second.rest.slice Program.nowhere firstRest.state
  ⟨command, first, second, commandRest, firstRest, secondRest⟩

def byCommand (k : Course σ) (m : Message) : List Response :=
  (k.command.outputs ++ k.commandRest.outputs).filterMap (Errand.responseOf? m)

def byFirst (k : Course σ) (m : Message) : List Response :=
  (k.first.outputs ++ k.firstRest.outputs).filterMap (Errand.responseOf? m)

def outputs (k : Course σ) : List Program.Output :=
  k.command.outputs ++ k.first.outputs ++ k.second.outputs ++ k.commandRest.outputs ++ k.firstRest.outputs ++
    k.secondRest.outputs

theorem byFirst_subset (k : Course σ) (m : Message) : k.byFirst m ⊆ k.outputs.filterMap (Errand.responseOf? m) := by
  intro r hr
  rw [byFirst, List.filterMap_append, List.mem_append] at hr
  simp only [outputs, List.filterMap_append, List.mem_append]
  rcases hr with hfirst | hrest
  · exact .inl (.inl (.inl (.inl (.inr hfirst))))
  · exact .inl (.inr hrest)

end Course

/-! ## Errands with two passive handlers -/

namespace Errand

variable {m : Message} {channel : Text} {p : Program σ Bool} {a b : Passive σ} {x x' : Program.Slice σ Bool}
  {y z y' z' : Program.Slice σ Unit} {stops : Pause → Bool} {s : σ}

section
variable {passives : List (Passive σ)} {responses : List Response} {reported : Bool}

theorem take_command : (⟨m, channel, p, passives, responses, reported⟩ : Errand σ).take stops .command s =
    (⟨m, channel, (p.slice stops s).rest, passives, responses ++ (p.slice stops s).outputs.filterMap (responseOf? m),
      reported⟩, (p.slice stops s).state, (p.slice stops s).outputs.flatMap (recordsOf m channel)) := rfl

theorem take_first : (⟨m, channel, p, [a, b], responses, reported⟩ : Errand σ).take stops (.passive 0) s =
    (⟨m, channel, p, [⟨a.name, (a.program.slice stops s).rest⟩, b],
      responses ++ (a.program.slice stops s).outputs.filterMap (responseOf? m), reported⟩,
      (a.program.slice stops s).state, (a.program.slice stops s).outputs.flatMap (recordsOf m channel)) := rfl

theorem take_second : (⟨m, channel, p, [a, b], responses, reported⟩ : Errand σ).take stops (.passive 1) s =
    (⟨m, channel, p, [a, ⟨b.name, (b.program.slice stops s).rest⟩],
      responses ++ (b.program.slice stops s).outputs.filterMap (responseOf? m), reported⟩,
      (b.program.slice stops s).state, (b.program.slice stops s).outputs.flatMap (recordsOf m channel)) := rfl

theorem passiveTurns_pair :
    (⟨m, channel, p, [a, b], responses, reported⟩ : Errand σ).passiveTurns = [.passive 0, .passive 1] := rfl

end

theorem exists_runAll_eq (hx : p.slice stops s = x) (hy : a.program.slice stops x.state = y)
    (hz : b.program.slice stops y.state = z) (hx' : x.rest.slice Program.nowhere z.state = x')
    (hy' : y.rest.slice Program.nowhere x'.state = y') (hz' : z.rest.slice Program.nowhere y'.state = z') :
    ∃ t records, runAll stops [⟨m, channel, p, [a, b], [], false⟩] s = ([t], z'.state, records) ∧
      t.responses = (x.outputs ++ y.outputs ++ z.outputs ++ x'.outputs ++ y'.outputs ++ z'.outputs).filterMap
        (responseOf? m) := by
  simp only [runAll, sweep, takeAll, take_command, take_first, take_second, take_report, passiveTurns_pair,
    List.cons_append, List.nil_append, hx, hy, hz, hx', hy', hz']
  refine ⟨_, _, rfl, ?_⟩
  simp only [List.filterMap_append, List.append_assoc]

end Errand

namespace Bot
open Command Feature
variable [Instant τ]

/-- The turns in which a bot with all features handles a message. -/
def course (bot : Bot τ) (m : Message) (w : World τ) : Course (World τ) :=
  Course.run quiet (bot.registry.dispatch m) (CustomResponses.answer bot.settings.leader m) (Chatter.listen bot.settings m) w

theorem IsFull.handle_eq_course {bot : Bot τ} (hbot : bot.IsFull) (m : Message) (w : World τ) :
    (bot.handle m w).1 = (bot.course m w).outputs.filterMap (Errand.responseOf? m) ∧
      (bot.handle m w).2.1 = (bot.course m w).secondRest.state := by
  have herrand : bot.errand m = ⟨m, m.channel, bot.registry.dispatch m,
      [⟨"Responses.handle", CustomResponses.answer bot.settings.leader m⟩,
        ⟨"Speak.handle", Chatter.listen bot.settings m⟩], [], false⟩ := by
    rw [errand, hbot.passives]
    rfl
  obtain ⟨t, records, hrun, hresponses⟩ : ∃ t records, Errand.runAll quiet [bot.errand m] w =
      ([t], (bot.course m w).secondRest.state, records) ∧
        t.responses = (bot.course m w).outputs.filterMap (Errand.responseOf? m) :=
    herrand ▸ Errand.exists_runAll_eq rfl rfl rfl rfl rfl rfl
  constructor
  · simpa only [handle, hrun, List.flatMap_cons, List.flatMap_nil, List.append_nil] using hresponses
  · simp only [handle, hrun]

/-! ## Runs -/

structure Arrival (τ : Type) where
  message : Message
  clock : τ

omit [Instant τ] in
def Arrival.meets (a : Arrival τ) (w : World τ) : World τ := { w with clock := a.clock }

omit [Instant τ] in
def after (bot : Bot τ) (arrivals : List (Arrival τ)) (w : World τ) : World τ :=
  arrivals.foldl (fun w a => (bot.handle a.message (a.meets w)).2.1) w

omit [Instant τ] in
theorem after_cons (bot : Bot τ) (a : Arrival τ) (arrivals : List (Arrival τ)) (w : World τ) :
    bot.after (a :: arrivals) w = bot.after arrivals (bot.handle a.message (a.meets w)).2.1 := by
  rw [after, after, List.foldl_cons]

end Bot
end ChatBot
