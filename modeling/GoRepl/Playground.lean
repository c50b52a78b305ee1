import GoRepl.Text.Basic

/-! # The playground

Addresses of the service that programs are shared through. -/

namespace GoRepl.Playground

/-- The base address without slashes at its end. -/
def base (address : Text) : Text := Text.dropEndWhile (· == '/') address

/-- Where a program is sent to. -/
def shareUrl (address : Text) : Text := base address ++ "/share".toList

/-- Where a stored program is found, by the number that the service gave it. -/
def snippetUrl (address id : Text) : Text := base address ++ "/p/".toList ++ id.trim

end GoRepl.Playground
