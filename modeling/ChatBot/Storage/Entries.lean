import ChatBot.Assoc
import ChatBot.Template.Basic

/-!
Custom responses by channel and name, both in the order in which they were first set. A channel stays when its last response
is removed.
-/
set_option autoImplicit false

namespace ChatBot.Storage

/-- The responses of each channel. -/
abbrev Entries := Assoc Text (Assoc Text Template)

namespace Entries

/-- The responses of one channel. -/
def channel (entries : Entries) (c : Text) : Assoc Text Template := (entries.find? c).getD []

def get? (entries : Entries) (c name : Text) : Option Template := (entries.channel c).find? name

/-- The names and bodies of a channel, in order. -/
def commands (entries : Entries) (c : Text) : List (Text × Text) :=
  (entries.channel c).map fun (name, template) => (name, template.body)

def set (entries : Entries) (c name : Text) (template : Template) : Entries :=
  entries.insert c ((entries.channel c).insert name template)

def remove (entries : Entries) (c name : Text) : Entries := entries.insert c ((entries.channel c).erase name)

@[simp] theorem channel_set_self (entries : Entries) (c name : Text) (template : Template) :
    (entries.set c name template).channel c = (entries.channel c).insert name template := by
  simp [channel, set]

@[simp] theorem channel_set_of_ne (entries : Entries) {c other : Text} (name : Text) (template : Template)
    (h : c ≠ other) : (entries.set c name template).channel other = entries.channel other := by
  simp [channel, set, h]

@[simp] theorem channel_remove_self (entries : Entries) (c name : Text) :
    (entries.remove c name).channel c = (entries.channel c).erase name := by
  simp [channel, remove]

@[simp] theorem channel_remove_of_ne (entries : Entries) {c other : Text} (name : Text) (h : c ≠ other) :
    (entries.remove c name).channel other = entries.channel other := by
  simp [channel, remove, h]

end Entries
end ChatBot.Storage
