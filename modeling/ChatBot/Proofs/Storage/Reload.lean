import Mathlib
import ChatBot.Program.Gather
import ChatBot.Proofs.Json.DistinctNames
import ChatBot.Proofs.Json.RoundTrip
import ChatBot.Proofs.Storage.Interleaving
import ChatBot.Proofs.Template.Filling

/-!
Custom responses that were saved are loaded as they were. Loading leaves out what is not well formed, but nothing of the kind
is ever kept: no document that was read names a member twice, and every body is read as a template before it is stored.
-/
set_option autoImplicit false

namespace ChatBot

namespace Storage
namespace Entries

/-! ## What is kept -/

/-- The responses of one channel: no name twice, and every body well formed under its name. -/
structure WellFormedChannel (templates : Assoc Text Template) : Prop where
  names_nodup : (Assoc.keys templates).Nodup
  compiled : ∀ r ∈ templates, Template.compile r.1 r.2.body = .ok r.2

/-- The responses of all channels, none of which is there twice. -/
structure WellFormed (entries : Entries) : Prop where
  channels_nodup : (Assoc.keys entries).Nodup
  channels : ∀ b ∈ entries, WellFormedChannel b.2

theorem wellFormed_nil : WellFormed [] := ⟨List.nodup_nil, fun _ h => absurd h List.not_mem_nil⟩

theorem WellFormed.channel {entries : Entries} (h : entries.WellFormed) (c : Text) :
    WellFormedChannel (entries.channel c) := by
  rw [Entries.channel]
  cases hfind : entries.find? c with
  | none => exact ⟨List.nodup_nil, fun _ h => absurd h List.not_mem_nil⟩
  | some templates => exact h.channels (c, templates) (Assoc.mem_of_find?_eq_some hfind)

theorem WellFormed.insert {entries : Entries} {c : Text} {templates : Assoc Text Template} (h : entries.WellFormed)
    (htemplates : WellFormedChannel templates) : WellFormed (Assoc.insert entries c templates) := by
  refine ⟨Assoc.nodup_keys_insert h.channels_nodup, fun b hb => ?_⟩
  rcases Assoc.mem_of_mem_insert hb with rfl | hb
  · exact htemplates
  · exact h.channels b hb

theorem WellFormed.set {entries : Entries} {c name body : Text} {template : Template} (h : entries.WellFormed)
    (htemplate : Template.compile name body = .ok template) : (entries.set c name template).WellFormed := by
  refine h.insert ⟨Assoc.nodup_keys_insert (h.channel c).names_nodup, fun r hr => ?_⟩
  rcases Assoc.mem_of_mem_insert hr with rfl | hr
  · obtain rfl := Template.compile_eq_ok htemplate
    exact htemplate
  · exact (h.channel c).compiled r hr

theorem WellFormed.remove {entries : Entries} (h : entries.WellFormed) (c name : Text) :
    (entries.remove c name).WellFormed :=
  h.insert ⟨Assoc.nodup_keys_erase (h.channel c).names_nodup, fun r hr =>
    (h.channel c).compiled r ((Assoc.erase_sublist _ name).subset hr)⟩

theorem WellFormed.applied? {entries changed : Entries} {change : Shelf.Change} (h : entries.WellFormed)
    (hchange : change.applied? entries = some changed) : changed.WellFormed := by
  cases change with
  | set c name body =>
    cases htemplate : Template.compile name body with
    | error error => simp [Shelf.Change.applied?, htemplate] at hchange
    | ok template =>
      obtain rfl : entries.set c name template = changed := by simpa [Shelf.Change.applied?, htemplate] using hchange
      exact h.set htemplate
  | remove c name =>
    rw [Shelf.Change.applied?] at hchange
    split at hchange
    · obtain rfl := Option.some.inj hchange
      exact h.remove c name
    · cases hchange

theorem WellFormed.foldl_applied? {ι : Type} {entries : Entries} (h : entries.WellFormed) (changes : ι → Shelf.Change)
    (schedule : List ι) :
    WellFormed (schedule.foldl (fun entries i => ((changes i).applied? entries).getD entries) entries) := by
  induction schedule generalizing entries with
  | nil => exact h
  | cons i schedule ih =>
    rw [List.foldl_cons]
    apply ih
    cases hchange : (changes i).applied? entries with
    | none => exact h
    | some changed => exact h.applied? hchange

/-! ## What is loaded -/

def responseOf? (m : Text × Json) : Option (Text × Template) :=
  m.2.text?.bind fun body => (Template.compile m.1 body).toOption.map fun template => (m.1, template)

def channelOf? (m : Text × Json) : Option (Text × Assoc Text Template) :=
  (commandsOf? m.2).map fun commands => (m.1, commands.filterMap responseOf?)

theorem ofCommands_fst (c : Text) (members : List (Text × Json)) :
    (ofCommands c members).1 = members.filterMap responseOf? := by
  induction members with
  | nil => rfl
  | cons m members ih =>
    obtain ⟨name, value⟩ := m
    cases value with
    | string body =>
      cases htemplate : Template.compile name body with
      | ok template =>
        simp [ofCommands, htemplate, responseOf?, Json.text?, Except.toOption, ih]
      | error error =>
        simp [ofCommands, htemplate, responseOf?, Json.text?, Except.toOption, ih]
    | _ => exact ih

theorem ofMembers_fst (members : List (Text × Json)) : (ofMembers members).1 = members.filterMap channelOf? := by
  induction members with
  | nil => rfl
  | cons m members ih =>
    obtain ⟨c, value⟩ := m
    cases hcommands : commandsOf? value with
    | none => simpa [ofMembers, channelOf?, hcommands] using ih
    | some commands => simp [ofMembers, channelOf?, hcommands, ofCommands_fst, ih]

theorem wellFormedChannel_filterMap {members : List (Text × Json)} (h : (Assoc.keys members).Nodup) :
    WellFormedChannel (members.filterMap responseOf?) := by
  have hname : ∀ m r, responseOf? m = some r → r.1 = m.1 ∧ Template.compile r.1 r.2.body = .ok r.2 := by
    intro m r hr
    obtain ⟨body, -, hr⟩ := Option.bind_eq_some_iff.mp hr
    obtain ⟨template, htemplate, rfl⟩ := Option.map_eq_some_iff.mp hr
    cases hcompile : Template.compile m.1 body with
    | error error =>
      rw [hcompile] at htemplate
      cases htemplate
    | ok compiled =>
      rw [hcompile] at htemplate
      obtain rfl := Option.some.inj htemplate
      obtain rfl := Template.compile_eq_ok hcompile
      exact ⟨rfl, hcompile⟩
  refine ⟨h.sublist (Assoc.keys_filterMap_sublist (fun m r hr => (hname m r hr).1) members), fun r hr => ?_⟩
  obtain ⟨m, -, hm⟩ := List.mem_filterMap.mp hr
  exact (hname m r hm).2

theorem nodup_commandsOf? {v : Json} {commands : List (Text × Json)} (hv : v.HasDistinctNames)
    (h : commandsOf? v = some commands) : (Assoc.keys commands).Nodup := by
  have hmember : ∀ {ms : List (Text × Json)} {name w}, (∀ m ∈ ms, Json.HasDistinctNames m.2) →
      Json.member? ms name = some w → w.HasDistinctNames := by
    intro ms name w hms hw
    induction ms with
    | nil => cases hw
    | cons m ms ih =>
      rw [Json.member?] at hw
      split at hw
      · obtain rfl := Option.some.inj hw
        exact hms _ List.mem_cons_self
      · exact ih (fun m hm => hms m (List.mem_cons_of_mem _ hm)) hw
  cases hv with
  | object _ hms =>
    rw [commandsOf?] at h
    split at h
    · rename_i hfound
      obtain rfl := Option.some.inj h
      cases hmember hms hfound with
      | object hnodup _ => exact hnodup
    · cases h
  | _ => cases h

theorem wellFormed_ofDocument {document : Json} (h : document.HasDistinctNames) : WellFormed (ofDocument document).1 := by
  cases h with
  | object hnodup hms =>
    rw [ofDocument, ofMembers_fst]
    have hchannel : ∀ m b, channelOf? m = some b → b.1 = m.1 ∧ (m.2.HasDistinctNames → WellFormedChannel b.2) := by
      intro m b hb
      obtain ⟨commands, hcommands, rfl⟩ := Option.map_eq_some_iff.mp hb
      exact ⟨rfl, fun hm => wellFormedChannel_filterMap (nodup_commandsOf? hm hcommands)⟩
    refine ⟨hnodup.sublist (Assoc.keys_filterMap_sublist (fun m b hb => (hchannel m b hb).1) _), fun b hb => ?_⟩
    obtain ⟨m, hm, hb⟩ := List.mem_filterMap.mp hb
    exact (hchannel m b hb).2 (hms m hm)
  | _ => exact wellFormed_nil

theorem wellFormed_of_load {runtime : Runtime} {fs : FileSystem} {p : FilePath} {entries : Entries} {notes : List Note}
    (h : load runtime fs p = .ok (entries, notes)) : entries.WellFormed := by
  have hnone : ∀ {ns : List Note}, (Except.ok ([], ns) : Except Fault (Entries × List Note)) = .ok (entries, notes) →
      entries.WellFormed := by
    intro ns h
    obtain ⟨rfl, -⟩ := Prod.mk.inj (Except.ok.inj h)
    exact wellFormed_nil
  rw [load] at h
  split at h
  · cases h
  · exact hnone h
  · exact hnone h
  · split at h
    · cases h
    · rw [ofFileText] at h
      split at h
      · split at h
        · cases h
        · exact hnone h
      · rename_i document hread
        obtain ⟨rfl, -⟩ := Prod.mk.inj (Except.ok.inj h)
        exact wellFormed_ofDocument (Json.hasDistinctNames_of_read hread)

/-! ## What is written -/

theorem WellFormed.isTextual_document {entries : Entries} (h : entries.WellFormed) (levels : ℕ) :
    entries.document.IsTextual (levels + 3) := by
  have hkeys : ∀ {β : Type} (m : Assoc Text β) (f : Text × β → Json),
      Assoc.keys (m.map fun b => (b.1, f b)) = Assoc.keys m := fun m f => List.map_map
  refine .object ?_ fun m hm => ?_
  · exact (hkeys entries _).symm ▸ h.channels_nodup
  obtain ⟨b, hb, rfl⟩ := List.mem_map.mp hm
  refine .object (List.nodup_singleton _) fun m hm => ?_
  obtain rfl := List.mem_singleton.mp hm
  refine .object ((hkeys b.2 _).symm ▸ (h.channels b hb).names_nodup) fun m hm => ?_
  obtain ⟨r, -, rfl⟩ := List.mem_map.mp hm
  exact .string levels r.2.body

theorem WellFormedChannel.ofCommands_document {templates : Assoc Text Template} (h : WellFormedChannel templates)
    (c : Text) : ofCommands c (templates.map fun (name, template) => (name, .string template.body)) = (templates, []) := by
  have hcompiled := h.compiled
  clear h
  induction templates with
  | nil => rfl
  | cons r templates ih =>
    have hr := hcompiled r List.mem_cons_self
    have hrest := ih fun r hr => hcompiled r (List.mem_cons_of_mem _ hr)
    rw [List.map_cons, ofCommands, hrest]
    simp only [hr]

theorem WellFormed.ofDocument_document {entries : Entries} (h : entries.WellFormed) :
    ofDocument entries.document = (entries, []) := by
  have hchannels := h.channels
  clear h
  rw [document, ofDocument]
  induction entries with
  | nil => rfl
  | cons b entries ih =>
    have hb := (hchannels b List.mem_cons_self).ofCommands_document b.1
    have hrest := ih fun b hb => hchannels b (List.mem_cons_of_mem _ hb)
    have hcommands : commandsOf? (channelDocument b.2) =
        some (b.2.map fun (name, template) => (name, .string template.body)) := rfl
    rw [List.map_cons, ofMembers, hrest]
    simp only [hcommands, hb, List.append_nil]

/-- Well formed responses are loaded from the file they are written as, with nothing passed over. -/
theorem WellFormed.load_of_node? {runtime : Runtime} {entries : Entries} {fs : FileSystem} {p : FilePath}
    (h : entries.WellFormed) (hnode : fs.node? p = .ok (some entries.file)) : load runtime fs p = .ok (entries, []) := by
  have htextual : entries.document.IsTextual runtime.deepestNesting := by
    rw [← Nat.sub_add_cancel runtime.roomy]
    exact h.isTextual_document _
  have htext : FileSystem.readText? (FileSystem.encode (Json.print entries.document)) = some (Json.print entries.document) :=
    FileSystem.readText?_encode (htextual.not_mem_return 0)
  rw [load, hnode]
  simp only [Entries.file, htext, ofFileText, Json.read_print htextual, h.ofDocument_document]
  rfl

end Entries

namespace Shelf
variable {ι τ : Type}

/-! ## Saving and loading -/

/-- Responses that were written can be written again, and are in the file already. -/
theorem save_of_finishWrite {entries : Entries} {w w' : World τ} (h : finishWrite entries w = (.ok (), w')) :
    w'.files.node? w.shelf.path = .ok (some entries.file) ∧
      entries.save w.runtime none w'.files w.shelf.path = (.ok (), w'.files) := by
  cases hrefusal : w.nextRefusal with
  | mk refusal next =>
    obtain ⟨hshelf, hfiles, hruntime, -⟩ := nextRefusal_keeps hrefusal
    rcases next.files.writeText_cases next.runtime next.shelf.path (Json.print entries.document) refusal with
      ⟨files, hsave, hwhole, hput⟩ | ⟨fault, files, hsave, -⟩
    · simp only [finishWrite, hrefusal, Entries.save, hsave] at h
      obtain ⟨-, rfl⟩ := Prod.mk.inj h
      rw [hruntime] at hwhole
      rw [hshelf] at hput
      exact ⟨FileSystem.node?_of_put hput, FileSystem.writeText_of_put hwhole (FileSystem.put_again hput)⟩
    · simp only [finishWrite, hrefusal, Entries.save, hsave] at h
      cases h

/-- Bringing the file up to date alone, when nothing else is being written. -/
theorem slice_save {w written : World τ} {result : Except Fault Unit} (hwriting : w.shelf.writing = false)
    (hfinish : finishWrite w.shelf.entries (w.withWriting true) = (result, written)) :
    (save : Program (World τ) Unit).slice Program.nowhere w = ⟨[], written, Program.ofExcept result⟩ := by
  change (if (!w.shelf.writing) = true then _ else _) = _
  rw [hwriting]
  change Program.slice Program.nowhere (Program.ofExcept (finishWrite w.shelf.entries (w.withWriting true)).1)
    (finishWrite w.shelf.entries (w.withWriting true)).2 = _
  rw [hfinish]
  cases result <;> rfl

/-- A run that brings the file up to date saves what is in memory. -/
theorem save_of_run_eq_ok {w : World τ} (h : ((save : Program (World τ) Unit).run w).1 = .ok ()) :
    let files := ((save : Program (World τ) Unit).run w).2.1.files
    files.node? w.shelf.path = .ok (some w.shelf.entries.file) ∧
      w.shelf.entries.save w.runtime none files w.shelf.path = (.ok (), files) := by
  cases hwriting : w.shelf.writing with
  | true =>
    have hstuck : ((save : Program (World τ) Unit).run w).1 = .error .cancelled := by
      change Program.outcome (Program.Slice.rest (if (!w.shelf.writing) = true then _ else _)) = _
      rw [hwriting]
      rfl
    rw [h] at hstuck
    cases hstuck
  | false =>
    cases hfinish : finishWrite w.shelf.entries (w.withWriting true) with
    | mk result written =>
      rw [Program.run, slice_save hwriting hfinish] at h ⊢
      cases result with
      | ok _ =>
        have hsaved := save_of_finishWrite hfinish
        exact hsaved
      | error fault => cases h

variable [DecidableEq ι]

/-- Responses that were loaded from some file and changed by calls that take turns in any order are saved so that loading
gives them back: the same channels in the same order, each with the same responses in the same order. Nothing is passed over,
and saving what was loaded leaves every file as it is. -/
theorem load_after_save {runtime : Runtime} {files : FileSystem} {path : FilePath} {notes : List Note} (w : World τ)
    (hload : Entries.load runtime files path = .ok (w.shelf.entries, notes)) (changes : ι → Change) (schedule : List ι) :
    let w₁ := ((Pool.start w changes).run schedule).world
    let saved := (save : Program (World τ) Unit).run w₁
    w₁.shelf.path = w.shelf.path ∧ w₁.shelf.entries = memoryAfter changes w.shelf.entries schedule ∧
    (saved.1 = .ok () → Entries.load runtime saved.2.1.files w.shelf.path = .ok (w₁.shelf.entries, []) ∧
      w₁.shelf.entries.save w₁.runtime none saved.2.1.files w.shelf.path = (.ok (), saved.2.1.files)) := by
  intro w₁ saved
  obtain ⟨s, hrun, hs⟩ := Situation.exists_sound_of_run changes w schedule
  have hworld : w₁ = s.world := congrArg Pool.world hrun
  have hpath : w₁.shelf.path = w.shelf.path := by rw [hworld, hs.accounted.path]
  have hmemory : w₁.shelf.entries = memoryAfter changes w.shelf.entries schedule := by
    rw [hworld, hs.accounted.memory]
  refine ⟨hpath, hmemory, fun hsave => ?_⟩
  obtain ⟨hnode, hagain⟩ := hpath ▸ save_of_run_eq_ok hsave
  have hwell : w₁.shelf.entries.WellFormed := by
    rw [hmemory]
    exact (Entries.wellFormed_of_load hload).foldl_applied? changes _
  exact ⟨hwell.load_of_node? hnode, hagain⟩

/-- The file holds a body that is passed over; a channel loses its only response, and another one gets a body with quotes,
a backslash and control characters. -/
theorem load_after_save_with_escapes :
    let text : Text := "\x7b\"#lobby\": \x7b\"commands\": \x7b\"hi\": \"say \\\"hi\\\"\", \"bad\": \"$\x7b\"\x7d\x7d\x7d"
    let path := FilePath.ofText "commands.json"
    let files : FileSystem := ⟨[(path, .file (FileSystem.encode text))]⟩
    let loaded : Entries := [("#lobby", [("hi", ⟨"hi", "say \"hi\""⟩)])]
    let w : World Unit :=
      { files, clock := (), replies := [], draws := [], shelf := ⟨path, loaded, false⟩, lastChatter := none }
    let changes : Bool → Change := fun i =>
      if i then .remove "#lobby" "hi" else .set "#cellar" "q" "\"a\\b\"\r\n\x01 $\x7bname\x7d"
    let schedule := [true, false, true, true, false, false]
    let w₁ := ((Pool.start w changes).run schedule).world
    Entries.load w.runtime files path = .ok (loaded, [Skipped.note ⟨"#lobby", "bad", .unterminated⟩]) ∧
      (save.run w₁).1 = .ok () ∧ Entries.load w.runtime (save.run w₁).2.1.files path = .ok (w₁.shelf.entries, []) := by
  intro text path files loaded w changes schedule
  have hread : Json.read .plain text = .ok (.object [("#lobby",
      .object [("commands", .object [("hi", .string "say \"hi\""), ("bad", .string "$\x7b")])])]) := by
    clear schedule changes w loaded files path
    subst text
    cbv
  have hnode : files.node? path = .ok (some (.file (FileSystem.encode text))) := rfl
  have hload : Entries.load .plain files path = .ok (loaded, [Skipped.note ⟨"#lobby", "bad", .unterminated⟩]) := by
    rw [Entries.load, hnode]
    simp only [FileSystem.readText?_encode (by decide : '\r' ∉ text), Entries.ofFileText, hread]
    rfl
  have hsave : (save.run ((Pool.start w changes).run schedule).world).1 = .ok () := by decide +kernel
  exact ⟨hload, hsave, ((load_after_save w hload changes schedule).2.2 hsave).1⟩

end Shelf
end Storage
end ChatBot
