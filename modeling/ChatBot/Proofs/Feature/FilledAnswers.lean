import ChatBot.Proofs.Feature.CustomResponses
import ChatBot.Proofs.Template.Grammar

/-!
What the answer to a message says of the stored body. The sender and the channel are filled in one after the other, in the order
in which their keys first appear, and the second pass reads what the first has brought in. So a body is filled in at once only
where the value that comes first cannot be read as part of a placeholder; a sender who is called like one is expanded.
-/
set_option autoImplicit false

namespace ChatBot.Feature.CustomResponses
variable {τ : Type}
open Template

/-- What a key stands for in the answer to a message. -/
def valueOf? (m : Message) (key : Text) : Option Text :=
  if key = ("name" : Text) then some m.sender else if key = ("channel" : Text) then some m.channel else none

theorem resolve?_environment (m : Message) : (environment m).resolve? = valueOf? m := by
  funext key
  by_cases hchannel : key = ("channel" : Text)
  · subst hchannel
    rfl
  by_cases hname : key = ("name" : Text)
  · subst hname
    rfl
  have hnone : (environment m).find? key = none := by
    rw [environment, Assoc.find?_insert_of_ne _ _ (Ne.symm hchannel), Assoc.find?_insert_of_ne _ _ (Ne.symm hname),
      Assoc.find?_nil]
  rw [Environment.resolve?, hnone, valueOf?, if_neg hname, if_neg hchannel]
  rfl

/-- The passes over a body with these keys: at most one for the sender and one for the channel. -/
def passesOf (m : Message) (ks : List Text) : Assoc Text Text := passes (valueOf? m) ks.eraseDups

theorem apply_environment {template : Template} {ks : List Text} (h : keys template.body = .ok ks) (m : Message) :
    template.apply (environment m) = .ok (replacePasses (passesOf m ks) template.body) := by
  rw [apply, h]
  have hfill := (environment m).fill_eq_replacePasses ks.eraseDups template.body
  rw [resolve?_environment] at hfill
  exact congrArg Except.ok hfill

theorem responses_of_say (m : Message) (text : Text) :
    [Program.Output.response .say text].filterMap (Errand.responseOf? m) =
      if Text.trim text = [] then [] else [⟨.say, m.channel, Text.trim text, none, none, m.source⟩] := by
  by_cases hblank : Text.trim text = []
  · have hnone : Errand.responseOf? m (.response .say text) = none := by
      rw [Errand.responseOf?, Errand.deliverable?, hblank]
      rfl
    rw [List.filterMap_cons_none hnone, if_pos hblank, List.filterMap_nil]
  · have hsome : Errand.responseOf? m (.response .say text) =
        some ⟨.say, m.channel, Text.trim text, none, none, m.source⟩ := by
      rw [Errand.responseOf?, Errand.deliverable?, if_neg (by simpa using hblank)]
      rfl
    rw [List.filterMap_cons_some hsome, if_neg hblank, List.filterMap_nil]

/-- A message that names a well-formed body of its channel is answered, in one turn that changes nothing, with the body after the
passes for the sender and the channel, trimmed, unless that is blank. The body can be taken apart in exactly one way; if the first
of two passes brings in a value that is inert, the answer is the body with all its placeholders filled in at once. -/
theorem answer_says_passes {leader : Char} {m : Message} {w : World τ} {name : Text} {template : Template} {ks : List Text}
    (hname : requestedName? leader m = some name) (hstored : w.shelf.entries.get? m.channel name = some template)
    (hkeys : keys template.body = .ok ks) (stops : Pause → Bool) :
    ∃ l : Layout, (l.Sound ∧ l.written = template.body ∧ l.keys = ks) ∧
      (∀ other : Layout, other.Sound → other.written = template.body → other = l) ∧
      let turn := (answer leader m).slice stops w
      let text := replacePasses (passesOf m ks) template.body
      turn.state = w ∧ turn.rest.ending? = some (.ok ()) ∧
        (turn.outputs.filterMap (Errand.responseOf? m) =
          if Text.trim text = [] then [] else [⟨.say, m.channel, Text.trim text, none, none, m.source⟩]) ∧
        ((∀ pass ∈ (passesOf m ks).dropLast, Inert pass.2) → text = l.filled (valueOf? m)) := by
  obtain ⟨l, ⟨hl, hwritten, rfl⟩, hunique⟩ := existsUnique_layout hkeys
  refine ⟨l, ⟨hl, hwritten, rfl⟩, hunique, ?_⟩
  intro turn text
  have hanswer : answerTo leader m (w.shelf.entries.channel m.channel) = .ok (some text) := by
    have hfind : (w.shelf.entries.channel m.channel).find? name = some template := hstored
    rw [answerTo, hname, Option.bind_some, hfind]
    simp only [apply_environment hkeys]
    rfl
  have hturn : turn = ⟨[.response .say text], w, Program.done ()⟩ := by
    have hadvance := advance_answer stops leader m w
    rw [hanswer] at hadvance
    rw [show turn = (answer leader m).slice stops w from rfl, Program.slice_eq_advance, hadvance]
    rfl
  refine ⟨by rw [hturn], by rw [hturn]; rfl, by rw [hturn]; exact responses_of_say m text, fun hinert => ?_⟩
  rw [← hl.replacePasses_written hinert, hwritten]
  rfl

/-- The sender comes first here, and has a name that is no placeholder. -/
theorem answer_says_passes_of_plain_sender :
    let m : Message := ⟨"#lobby", "ana", "!hi", [], "console", "m1"⟩
    let template : Template := ⟨"hi", "$\x7bname\x7d in $\x7bchannel\x7d, $\x7bdate\x7d"⟩
    let w : World Milliseconds :=
      { files := ⟨[]⟩, clock := ⟨0⟩, replies := [], draws := [],
        shelf := ⟨.ofText "commands.json", [("#lobby", [("hi", template)])], false⟩, lastChatter := none }
    requestedName? '!' m = some ("hi" : Text) ∧ w.shelf.entries.get? m.channel "hi" = some template ∧
      keys template.body = .ok [("name" : Text), "channel", "date"] ∧
      (∀ pass ∈ (passesOf m ["name", "channel", "date"]).dropLast, Inert pass.2) ∧
      ∃ l : Layout, l.Sound ∧ l.written = template.body ∧
        replacePasses (passesOf m ["name", "channel", "date"]) template.body = l.filled (valueOf? m) := by
  intro m template w
  have hname : requestedName? '!' m = some ("hi" : Text) := by decide
  have hstored : w.shelf.entries.get? m.channel "hi" = some template := by decide
  have hkeys : keys template.body = .ok [("name" : Text), "channel", "date"] := by rfl
  have hinert : ∀ pass ∈ (passesOf m ["name", "channel", "date"]).dropLast, Inert pass.2 := by
    intro pass hpass
    have hpasses : (passesOf m ["name", "channel", "date"]).dropLast = [(("name" : Text), ("ana" : Text))] := by decide
    rw [hpasses] at hpass
    obtain rfl := List.mem_singleton.mp hpass
    exact ⟨by decide, by decide, by decide⟩
  obtain ⟨l, ⟨hl, hwritten, -⟩, -, -, -, -, hfilled⟩ := answer_says_passes hname hstored hkeys Program.nowhere
  exact ⟨hname, hstored, hkeys, hinert, l, hl, hwritten, hfilled hinert⟩

/-- A sender who is called like the placeholder that comes second is expanded. -/
theorem sender_text_is_expanded :
    let m : Message := ⟨"#lobby", "$\x7bchannel\x7d", "!hi", [], "console", "m1"⟩
    let template : Template := ⟨"hi", "$\x7bname\x7d in $\x7bchannel\x7d"⟩
    let l : Layout := .piece "" "name" (.piece " in " "channel" (.last ""))
    let w : World Milliseconds :=
      { files := ⟨[]⟩, clock := ⟨0⟩, replies := [], draws := [],
        shelf := ⟨.ofText "commands.json", [("#lobby", [("hi", template)])], false⟩, lastChatter := none }
    requestedName? '!' m = some ("hi" : Text) ∧ w.shelf.entries.get? m.channel "hi" = some template ∧
      l.Sound ∧ l.written = template.body ∧ Text.trim (l.filled (valueOf? m)) = ("$\x7bchannel\x7d in #lobby" : Text) ∧
      (((answer '!' m).slice Program.nowhere w).outputs.filterMap (Errand.responseOf? m)).map Response.content =
        [("#lobby in #lobby" : Text)] := by
  intro m template l w
  have hname : requestedName? '!' m = some ("hi" : Text) := by decide
  have hstored : w.shelf.entries.get? m.channel "hi" = some template := by decide
  have hsound : l.Sound :=
    ⟨plain_of_not_mem (by decide), ⟨by decide, by decide, by decide⟩, plain_of_not_mem (by decide),
      ⟨by decide, by decide, by decide⟩, plain_of_not_mem (by decide)⟩
  have hfilled : Text.trim (l.filled (valueOf? m)) = ("$\x7bchannel\x7d in #lobby" : Text) := by decide
  refine ⟨hname, hstored, hsound, by decide, hfilled, ?_⟩
  decide +kernel

end ChatBot.Feature.CustomResponses
