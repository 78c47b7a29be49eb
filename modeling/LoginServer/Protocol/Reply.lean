/-!
# Replies

Every line from the server is one of ten codes of three digits.
-/

namespace LoginServer

/-- The answer to one request, or the greeting. -/
inductive Reply where
  /-- The greeting of an admitted connection. -/
  | connected
  | loginSuccess
  | postAccepted
  | logoutSuccess
  | accountBanned
  | accountUnknown
  /-- The connection is already logged in. -/
  | alreadyLoggedIn
  /-- Another connection is logged in under the name. -/
  | loggedInElsewhere
  | notLoggedIn
  | unknownRequest
  deriving DecidableEq, Repr

namespace Reply

/-- All replies, by ascending code. -/
def all : List Reply :=
  [ .connected, .loginSuccess, .postAccepted, .logoutSuccess, .accountBanned,
    .accountUnknown, .alreadyLoggedIn, .loggedInElsewhere, .notLoggedIn,
    .unknownRequest ]

/-- The code of a reply. -/
def code : Reply → String
  | .connected => "100"
  | .loginSuccess => "110"
  | .postAccepted => "120"
  | .logoutSuccess => "130"
  | .accountBanned => "211"
  | .accountUnknown => "212"
  | .alreadyLoggedIn => "213"
  | .loggedInElsewhere => "214"
  | .notLoggedIn => "221"
  | .unknownRequest => "300"

/-- The reply with exactly the given code. -/
def ofCode? (text : String) : Option Reply :=
  all.find? fun reply => reply.code = text

theorem code_injective {left right : Reply} (same : left.code = right.code) :
    left = right := by
  revert same
  cases left <;> cases right <;> decide

@[simp] theorem ofCode?_code (reply : Reply) :
    ofCode? reply.code = some reply := by
  cases reply <;> decide

end Reply
end LoginServer
