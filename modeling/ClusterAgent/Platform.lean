import ClusterAgent.Calendar

/-!
Contract: what the platform that the agent runs on decides.

A platform reads the times of the calendar as the calendar says, in a zone of its
own, and may read other texts as times. A text that is not JSON is refused in
words of its own. It is given texts as a reader sees them.

Owns: what is known of every platform, the plainest platform.
Does not own: which platform a run takes place on.
-/

namespace ClusterAgent

class Platform where
  /-- The zone of times that name none. -/
  zone : Calendar.LocalZone
  /-- Milliseconds since the start of 1970 of the time that a text names. -/
  millis? : List Char → Option Int
  /-- What is said about a text that is not JSON. -/
  jsonComplaint : List Char → List Char
  readsCalendar : ∀ text millis, Calendar.millis? zone text = some millis →
    millis? text = some millis

/-- The platform in universal time that reads no times but those of the calendar. -/
@[reducible] def Platform.universal : Platform where
  zone := .universal
  millis? := Calendar.millis? .universal
  jsonComplaint := fun _ => "the text holds no JSON value".toList
  readsCalendar := fun _ _ accepted => accepted

end ClusterAgent
