import ChatBot.World

/-!
Changing custom responses. A change is made in memory at once and written to the file later, after a pause in which others may
run. Only one write is under way at a time; each writes the responses as they stand when its turn comes, so the last write
leaves the newest state. A write that fails leaves the file as it was if it could not be opened, and cut short otherwise.
-/
set_option autoImplicit false

namespace ChatBot.Storage.Shelf
variable {τ : Type}

/-- Takes the right to write and the responses to be written. -/
def beginWrite (w : World τ) : Entries × World τ := (w.shelf.entries, w.withWriting true)

/-- Writes responses to the file and gives the right to write back. -/
def finishWrite (entries : Entries) (w : World τ) : Except Fault Unit × World τ :=
  let (refusal, w) := w.nextRefusal
  let (result, files) := entries.save w.runtime refusal w.files w.shelf.path
  (result, { w.withWriting false with files })

/-- Brings the file up to date. -/
def save : Program (World τ) Unit := do
  Program.yield .write
  Program.waitUntil (! ·.shelf.writing)
  let entries ← Program.update beginWrite
  Program.yield .write
  Program.ofExcept (← Program.update (finishWrite entries))

/-- Sets a custom response; a body that is not well formed changes nothing. -/
def set (channel name body : Text) : Program (World τ) Unit := do
  let template ← Program.ofExcept ((Template.compile name body).mapError Fault.template)
  Program.modify fun w => w.withEntries (w.shelf.entries.set channel name template)
  save

/-- Takes a custom response out, and tells whether it was there. -/
def takeOut (channel name : Text) (w : World τ) : Bool × World τ :=
  if (w.shelf.entries.get? channel name).isSome then
    (true, w.withEntries (w.shelf.entries.remove channel name))
  else (false, w)

/-- Removes a custom response; tells whether there was one. -/
def remove (channel name : Text) : Program (World τ) Bool := do
  if ← Program.update (takeOut channel name) then
    save
    return true
  else return false

def get? (channel name : Text) : Program (World τ) (Option Template) := do
  return (← Program.get).shelf.entries.get? channel name

def contains (channel name : Text) : Program (World τ) Bool := do
  return (← get? channel name).isSome

end ChatBot.Storage.Shelf
