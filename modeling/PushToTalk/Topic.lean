/-
  The chat topic: ASCII letters and digits, at most a hundred of them, so that it always is a
  path segment that needs no escaping.
-/

namespace PushToTalk.Topic

/-- The most characters a topic keeps. -/
def limit : Nat := 100

/-- The topic that is used when none is given. -/
def standard : String := "RADIO"

/-- An ASCII letter or digit. -/
def isUsable (c : Char) : Bool :=
  ('a' ≤ c && c ≤ 'z') || ('A' ≤ c && c ≤ 'Z') || ('0' ≤ c && c ≤ '9')

/-- The usable characters of a text, the first hundred of them. -/
def sanitise (text : String) : String :=
  String.ofList ((text.toList.filter isUsable).take limit)

end PushToTalk.Topic
