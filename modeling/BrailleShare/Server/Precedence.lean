import BrailleShare.Server
import BrailleShare.Tty.Focus

/-!
# Precedence

Who is shown, and who gets a key. Both are asked along the focus path, the deepest tty first and in
each tty the client that came first: the display belongs to the first client with content, a key
event to the first that accepts it.
-/

namespace BrailleShare.Server

variable {σ : Type}

/-- Gives focus to the console that the host shows. -/
def syncConsole (s : Server σ) : Server σ :=
  if ((s.tree.find? TtyTree.root).bind (·.focus)) = some s.console then s
  else
    { s.note (.consoleChanged s.console) with
      tree := s.tree.adjust TtyTree.root (fun _ => some s.console) (fun cs => cs) }

/-- The first of the clients in a tty that passes a test. -/
def firstWhere (s : Server σ) (test : Client → Bool) (ids : List ClientId) : Option ClientId :=
  ids.find? fun id => (s.client? id).any test

/-- The client whose window is to be on the display. -/
def shownClient (s : Server σ) : Option ClientId :=
  s.tree.firstAlongFocus s.console (s.firstWhere (·.hasContent))

/-- The client that takes a key event. -/
def keyTaker (s : Server σ) (command : UInt32) (keycode : Option UInt32) : Option ClientId :=
  s.tree.firstAlongFocus s.console (s.firstWhere (·.accepts command keycode))

/-- Who is to be on the display right now: the console that the host shows is looked up first. -/
def displayOwner (s : Server σ) : Option ClientId × Server σ :=
  (s.syncConsole.shownClient, s.syncConsole)

/-- Who would take a key event right now: the console that the host shows is looked up first. -/
def keyRecipient (s : Server σ) (command : UInt32) (keycode : Option UInt32) :
    Option ClientId × Server σ :=
  (s.syncConsole.keyTaker command keycode, s.syncConsole)

end BrailleShare.Server
