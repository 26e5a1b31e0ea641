import ChatBot.Assoc
import ChatBot.Fault
import ChatBot.Storage.FilePath

/-!
Home directories. A tilde at the start of a relative path stands for a home directory: for the user's own, which the environment
may name, or for that of the account whose name follows it.
-/
set_option autoImplicit false

namespace ChatBot.Storage

/-- The accounts that every system has, with their home directories. -/
def accountHomes : Assoc Text Text :=
  [("root", "/root"), ("daemon", "/usr/sbin"), ("bin", "/bin"), ("sys", "/dev"), ("sync", "/bin"), ("games", "/usr/games"),
   ("man", "/var/cache/man"), ("lp", "/var/spool/lpd"), ("mail", "/var/mail"), ("news", "/var/spool/news"),
   ("uucp", "/var/spool/uucp"), ("proxy", "/bin"), ("www-data", "/var/www"), ("backup", "/var/backups"),
   ("list", "/var/list"), ("irc", "/run/ircd"), ("nobody", "/nonexistent")]

/-- The user's own home directory where the environment names none. -/
def standardHome : Text := "/root"

/-- The home directory of an account, or the user's own for no name. -/
def home? (environment : Assoc Text Text) (account : Text) : Option Text :=
  if account.isEmpty then some ((environment.find? "HOME").getD standardHome) else accountHomes.find? account

/-- A directory's name without slashes at its end; the root keeps its only one. -/
def trimSlashes (t : Text) : Text :=
  match Text.dropWhileEnd (· == '/') t with
  | [] => ['/']
  | t => t

/-- A tilde that stands for no home directory. -/
def noHome : Fault := .runtime "Could not determine home directory."

/-- The path with the home directory in the place of a tilde at its start. -/
def FilePath.expandHome (environment : Assoc Text Text) (p : FilePath) : Except Fault FilePath :=
  match p.isAbsolute, p.parts with
  | false, ('~' :: account) :: parts =>
    match (home? environment account).map trimSlashes with
    | none | some ('~' :: _) => .error noHome
    | some home => .ok ((FilePath.ofText home).join ⟨[], parts⟩)
  | _, _ => .ok p

end ChatBot.Storage
