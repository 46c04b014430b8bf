import DesiredState.Resource.Rules
import DesiredState.Text.Affix

/-!
# Queues

Message queues. A queue that delivers in order of arrival has a name that ends in `.fifo`.

Contents:

* `Queue.Desired`, `Queue.Attributes`, `Queue.Observed`, `Queue.Change`: the four sides of a queue.
* `Queue.rules`: how they hang together.
-/

namespace DesiredState.Queue

/-! ## The sides of a queue -/

/-- Where messages go that could not be handled, and after how many attempts. -/
structure DeadLetter where
  targetArn : String
  maxReceiveCount : UInt32
  deriving DecidableEq

/-- What can be desired of a queue. -/
structure Desired where
  fifo : Bool
  delaySeconds : Option UInt32
  maximumMessageSize : Option UInt32
  messageRetentionPeriod : Option UInt32
  visibilityTimeout : Option UInt32
  receiveWaitTimeSeconds : Option UInt32
  deadLetter : Option DeadLetter
  deriving DecidableEq

/-- What is reported of a queue. -/
structure Attributes where
  arn : String
  fifo : Bool
  delaySeconds : UInt32
  maximumMessageSize : UInt32
  messageRetentionPeriod : UInt32
  visibilityTimeout : UInt32
  receiveWaitTimeSeconds : UInt32
  deadLetter : Option DeadLetter
  createdAt : Option Instant
  deriving DecidableEq

/-- What is copied from a hosted queue. -/
structure Observed where
  url : String
  arn : String
  createdAt : Option Instant
  deriving DecidableEq

/-- One change of a hosted queue. -/
inductive Change
  | delaySeconds (value : UInt32)
  | maximumMessageSize (value : UInt32)
  | messageRetentionPeriod (value : UInt32)
  | visibilityTimeout (value : UInt32)
  | receiveWaitTimeSeconds (value : UInt32)
  | redrivePolicy (value : Option DeadLetter)
  deriving DecidableEq

/-! ## Documents -/

def DeadLetter.form : Form DeadLetter := Layout.record <|
  DeadLetter.mk <$> .required "target_arn" DeadLetter.targetArn Form.text
    <*> .required "max_receive_count" DeadLetter.maxReceiveCount Form.word32

def Desired.layout : Layout Desired Desired :=
  Desired.mk <$> .defaulted "fifo" Desired.fifo Form.flag false
    <*> .optional "delay_seconds" Desired.delaySeconds Form.word32
    <*> .optional "maximum_message_size" Desired.maximumMessageSize Form.word32
    <*> .optional "message_retention_period" Desired.messageRetentionPeriod Form.word32
    <*> .optional "visibility_timeout" Desired.visibilityTimeout Form.word32
    <*> .optional "receive_wait_time_seconds" Desired.receiveWaitTimeSeconds Form.word32
    <*> .optional "dead_letter" Desired.deadLetter DeadLetter.form

def Observed.layout : Layout Observed Observed :=
  Observed.mk <$> .unlessEmptyText "url" Observed.url
    <*> .unlessEmptyText "arn" Observed.arn
    <*> .optional "created_at" Observed.createdAt Form.instant

/-- The fields of a hosted queue; its address identifies it. -/
def hostedLayout : Layout (Hosted Attributes) (Hosted Attributes) :=
  (fun url name arn fifo delay size retention visibility wait deadLetter tags createdAt =>
      ⟨url, name, tags, ⟨arn, fifo, delay, size, retention, visibility, wait, deadLetter, createdAt⟩⟩)
    <$> .required "url" Hosted.identifier Form.text
    <*> .required "name" Hosted.name Form.text
    <*> .required "arn" (·.attributes.arn) Form.text
    <*> .required "fifo" (·.attributes.fifo) Form.flag
    <*> .required "delay_seconds" (·.attributes.delaySeconds) Form.word32
    <*> .required "maximum_message_size" (·.attributes.maximumMessageSize) Form.word32
    <*> .required "message_retention_period" (·.attributes.messageRetentionPeriod) Form.word32
    <*> .required "visibility_timeout" (·.attributes.visibilityTimeout) Form.word32
    <*> .required "receive_wait_time_seconds" (·.attributes.receiveWaitTimeSeconds) Form.word32
    <*> .nullable "dead_letter" (·.attributes.deadLetter) DeadLetter.form
    <*> .required "tags" Hosted.tags Form.tags
    <*> .nullable "created_at" (·.attributes.createdAt) Form.instant

/-! ## Rules -/

/-- Size of the largest message in bytes, unless desired otherwise. -/
def defaultMessageSize : UInt32 := 262144

/-- Seconds that a message is kept, unless desired otherwise: four days. -/
def defaultRetention : UInt32 := 345600

/-- Seconds that a received message stays hidden, unless desired otherwise. -/
def defaultVisibility : UInt32 := 30

/-- Names of queues that deliver in order of arrival end like this. -/
def orderedEnding : String := ".fifo"

def Desired.standard : Desired := ⟨false, none, none, none, none, none, none⟩

def fill (d : Desired) : Desired where
  fifo := d.fifo
  delaySeconds := some (d.delaySeconds.getD 0)
  maximumMessageSize := some (d.maximumMessageSize.getD defaultMessageSize)
  messageRetentionPeriod := some (d.messageRetentionPeriod.getD defaultRetention)
  visibilityTimeout := some (d.visibilityTimeout.getD defaultVisibility)
  receiveWaitTimeSeconds := some (d.receiveWaitTimeSeconds.getD 0)
  deadLetter := d.deadLetter

/-- A dead-letter target needs an address and one to a thousand attempts. -/
def validateDeadLetter (t : DeadLetter) : Check := do
  Check.needed "dead_letter.target_arn" t.targetArn
  Check.within "dead_letter.max_receive_count" 1 1000 t.maxReceiveCount

/-- The name agrees with the kind of delivery, and all numbers lie in their ranges. -/
def validate (name : String) (d : Desired) : Check := do
  Check.needed "name" name
  Check.refuseIf (d.fifo && !Text.endsWith orderedEnding name) "name"
    "FIFO queue name must end with .fifo"
  Check.refuseIf (!d.fifo && Text.endsWith orderedEnding name) "fifo"
    "queue name ends with .fifo but fifo is not set"
  Check.withinIfSet "delay_seconds" 0 900 d.delaySeconds
  Check.withinIfSet "maximum_message_size" 1024 262144 d.maximumMessageSize
  Check.withinIfSet "message_retention_period" 60 1209600 d.messageRetentionPeriod
  Check.withinIfSet "visibility_timeout" 0 43200 d.visibilityTimeout
  Check.withinIfSet "receive_wait_time_seconds" 0 20 d.receiveWaitTimeSeconds
  match d.deadLetter with
  | some t => validateDeadLetter t
  | none => .ok ()

/-- One change for each number that is desired and different, and one for the dead-letter target. -/
def diff (d : Desired) (a : Attributes) : List Change :=
  ((d.delaySeconds.filter (· != a.delaySeconds)).map Change.delaySeconds).toList
    ++ ((d.maximumMessageSize.filter (· != a.maximumMessageSize)).map
      Change.maximumMessageSize).toList
    ++ ((d.messageRetentionPeriod.filter (· != a.messageRetentionPeriod)).map
      Change.messageRetentionPeriod).toList
    ++ ((d.visibilityTimeout.filter (· != a.visibilityTimeout)).map
      Change.visibilityTimeout).toList
    ++ ((d.receiveWaitTimeSeconds.filter (· != a.receiveWaitTimeSeconds)).map
      Change.receiveWaitTimeSeconds).toList
    ++ (if d.deadLetter = a.deadLetter then [] else [.redrivePolicy d.deadLetter])

def materialize (now : Instant) (name : String) (d : Desired) : Attributes where
  arn := "arn:sim:queue:" ++ name
  fifo := d.fifo
  delaySeconds := d.delaySeconds.getD 0
  maximumMessageSize := d.maximumMessageSize.getD defaultMessageSize
  messageRetentionPeriod := d.messageRetentionPeriod.getD defaultRetention
  visibilityTimeout := d.visibilityTimeout.getD defaultVisibility
  receiveWaitTimeSeconds := d.receiveWaitTimeSeconds.getD 0
  deadLetter := d.deadLetter
  createdAt := some now

def apply : Change → Attributes → Attributes
  | .delaySeconds v, a => { a with delaySeconds := v }
  | .maximumMessageSize v, a => { a with maximumMessageSize := v }
  | .messageRetentionPeriod v, a => { a with messageRetentionPeriod := v }
  | .visibilityTimeout v, a => { a with visibilityTimeout := v }
  | .receiveWaitTimeSeconds v, a => { a with receiveWaitTimeSeconds := v }
  | .redrivePolicy v, a => { a with deadLetter := v }

def DeadLetter.text (t : DeadLetter) : String :=
  Text.recordText "DeadLetterQueue" [("target_arn", Text.quote t.targetArn),
    ("max_receive_count", toString t.maxReceiveCount.toNat)]

def Change.text : Change → String
  | .delaySeconds v => "DelaySeconds(" ++ toString v.toNat ++ ")"
  | .maximumMessageSize v => "MaximumMessageSize(" ++ toString v.toNat ++ ")"
  | .messageRetentionPeriod v => "MessageRetentionPeriod(" ++ toString v.toNat ++ ")"
  | .visibilityTimeout v => "VisibilityTimeout(" ++ toString v.toNat ++ ")"
  | .receiveWaitTimeSeconds v => "ReceiveWaitTimeSeconds(" ++ toString v.toNat ++ ")"
  | .redrivePolicy v => "RedrivePolicy(" ++ Text.optionText (v.map DeadLetter.text) ++ ")"

def rules : Rules Desired Attributes Observed Change where
  label := "queue"
  idStem := "queue"
  desiredLayout := Desired.layout
  observedLayout := Observed.layout
  hostedLayout := hostedLayout
  normalizeName := Text.trim
  fill := fill
  validate := validate
  observe identifier a := ⟨identifier, a.arn, a.createdAt⟩
  unobserved := ⟨"", "", none⟩
  diff := diff
  materialize now _ name d := materialize now name d
  apply := apply
  isReady _ _ o := !o.url.isEmpty
  changeText := Change.text

end DesiredState.Queue
