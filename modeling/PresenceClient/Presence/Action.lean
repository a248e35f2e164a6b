-- What a presence record says about its member, and the numbers for it in messages.

namespace PresenceClient.Presence

inductive Action where
  | absent
  | present
  | enter
  | leave
  | update
deriving DecidableEq, Repr, Inhabited

namespace Action

def name : Action → String
  | absent => "absent"
  | present => "present"
  | enter => "enter"
  | leave => "leave"
  | update => "update"

def all : List Action := [absent, present, enter, leave, update]

def code : Action → Int
  | absent => 0
  | present => 1
  | enter => 2
  | leave => 3
  | update => 4

def ofCode? : Int → Option Action
  | 0 => some absent
  | 1 => some present
  | 2 => some enter
  | 3 => some leave
  | 4 => some update
  | _ => none

theorem ofCode?_code (a : Action) : ofCode? a.code = some a := by cases a <;> rfl

/-- Does the action say that the member is there? -/
def isHere : Action → Bool
  | enter | update | present => true
  | leave | absent => false

end Action

end PresenceClient.Presence
