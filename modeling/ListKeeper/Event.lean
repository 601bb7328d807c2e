import ListKeeper.Id

namespace ListKeeper

/-- What an event is about. The set is closed, and its order is that of `Topic.all`. -/
inductive Topic where
  | listCreated
  | listUpdated
  | listDeleted
  | indexAllListsRequested
  deriving DecidableEq, Inhabited

/-- Every topic, in the order in which reports list them. -/
def Topic.all : List Topic :=
  [.listCreated, .listUpdated, .listDeleted, .indexAllListsRequested]

def Topic.name : Topic → String
  | .listCreated => "listCreated"
  | .listUpdated => "listUpdated"
  | .listDeleted => "listDeleted"
  | .indexAllListsRequested => "indexAllListsRequested"

/-- The name of a topic as a tag in diagnostic text, with a capital letter. -/
def Topic.tag : Topic → String
  | .listCreated => "ListCreated"
  | .listUpdated => "ListUpdated"
  | .listDeleted => "ListDeleted"
  | .indexAllListsRequested => "IndexAllListsRequested"

def Topic.named? (name : String) : Option Topic :=
  Topic.all.find? fun topic => topic.name == name

inductive Payload where
  | list (id : ListId)
  | empty
  deriving DecidableEq, Inhabited

def Payload.text : Payload → String
  | .list id => "list:" ++ id.text
  | .empty => "empty"

def Payload.list? : Payload → Option ListId
  | .list id => some id
  | .empty => none

structure Envelope where
  topic : Topic
  payload : Payload
  deriving DecidableEq, Inhabited

end ListKeeper
