import DeskCalculator.Session
import DeskCalculator.Text.Lines

/-!
# The conversation with a user

A line is answered on one of two channels: a result on the output, a complaint on the error
channel.  A line with an exit word ends the conversation and is answered by nothing, even if
it is no calculation at all.

* `Reply` — what a line gets: whether the conversation goes on, and the two texts.
* `answerLine` — the reply to one line.
* `converse` — a whole conversation, from the first prompt to the exit word or the end of the
  input.
-/

namespace DeskCalculator

/-! ## One line -/

/-- What a line gets.  A failure that a session does not survive takes the place of the answer
whether to go on. -/
structure LineReply (σ : Type) where
  session : Session σ
  goesOn : Except Failure Bool
  output : List Char := []
  complaints : List Char := []
  records : List LogRecord := []

/-- A line of output. -/
def outputLine (text : List Char) : List Char := text ++ ['\n']

/-- What is written for a result. -/
def resultLine (value : Float) : List Char :=
  outputLine ("Result of your operation: ".toList ++ displayText value)

/-- What is written for a failure. -/
def complaintLine (e : Failure) : List Char :=
  outputLine ("Error: ".toList ++ e.message)

section

variable {σ : Type}

/-- The reply to a failure: a complaint if the session survives it. -/
def LineReply.ofFailure (session : Session σ) (e : Failure) (records : List LogRecord) :
    LineReply σ :=
  if e.isRecoverable then
    { session, goesOn := .ok true, complaints := complaintLine e, records }
  else { session, goesOn := .error e, records }

/-- The reply to one line. -/
def answerLine (limits : StackLimits) (sink : Sink σ) (s : Session σ) (line : List Char) :
    LineReply σ :=
  match tokenize line with
  | .error e =>
    if mentionsExit line then { session := s, goesOn := .ok false }
    else .ofFailure s (.lex e) []
  | .ok tokens =>
    if hasExit tokens then { session := s, goesOn := .ok false }
    else if tokens.isEmpty then { session := s, goesOn := .ok true }
    else
      let step := s.calculateTokens limits sink tokens
      match step.outcome with
      | .ok result =>
        { session := step.session, goesOn := .ok true,
          output := resultLine result.value, records := step.records }
      | .error e => .ofFailure step.session e step.records

/-! ## A conversation -/

/-- How a conversation ends. -/
inductive Ending where
  /-- A line has an exit word. -/
  | exitWord
  /-- There is no further line. -/
  | endOfInput
  /-- A failure that the session does not survive. -/
  | failed (e : Failure)
deriving Repr

/-- A whole conversation. -/
structure Conversation (σ : Type) where
  session : Session σ
  ending : Ending
  output : List Char
  complaints : List Char
  records : List LogRecord

/-- Put what came before in front of a conversation. -/
def Conversation.after (c : Conversation σ) (output complaints : List Char)
    (records : List LogRecord) : Conversation σ :=
  { c with
    output := output ++ c.output
    complaints := complaints ++ c.complaints
    records := records ++ c.records }

/-- A conversation over given lines: each is asked for with the prompt. -/
def converse (limits : StackLimits) (sink : Sink σ) (prompt : List Char) (s : Session σ) :
    List (List Char) → Conversation σ
  | [] => ⟨s, .endOfInput, prompt, [], []⟩
  | line :: rest =>
    let reply := answerLine limits sink s line
    match reply.goesOn with
    | .ok true =>
      (converse limits sink prompt reply.session rest).after
        (prompt ++ reply.output) reply.complaints reply.records
    | .ok false => ⟨reply.session, .exitWord, prompt, [], reply.records⟩
    | .error e => ⟨reply.session, .failed e, prompt, [], reply.records⟩

/-- A conversation over a text: its lines end with line feeds.  When the input ends without an
exit word, a line feed ends the last prompt. -/
def converseText (limits : StackLimits) (sink : Sink σ) (prompt : List Char) (s : Session σ)
    (input : List Char) : Conversation σ :=
  let c := converse limits sink prompt s (linesOf input)
  match c.ending with
  | .endOfInput => { c with output := c.output ++ ['\n'] }
  | _ => c

end

end DeskCalculator
