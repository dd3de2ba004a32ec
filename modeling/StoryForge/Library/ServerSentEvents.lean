import Mathlib.Data.List.Basic
import Mathlib.Data.List.Induction
import Mathlib.Data.Nat.Notation

/-!
# Server-sent events

The text of an event stream, and what a client makes of it. Events are written as frames of
three fields, and comments are sent to keep a connection open. A client reads one character
after the other: a line sets a field, and an empty line dispatches the event.

A connection can break at any character. What was dispatched until then are the first events,
and the last identifier is that of the last of them.

## Main results

* `ServerSentEvents.read_append` — a text may arrive in any pieces;
* `ServerSentEvents.read_text` — what is written is what is dispatched;
* `ServerSentEvents.exists_read_of_prefix` — what a broken connection leaves.
-/

namespace ServerSentEvents

/-! ### Writing -/

/-- An event as it is sent and dispatched. -/
structure Message where
  id : List Char
  event : List Char
  data : List Char
  deriving DecidableEq, Repr

/-- What is sent: an event, or a comment. -/
inductive Item
  | message (message : Message)
  | comment (text : List Char)
  deriving DecidableEq, Repr

/-- The lines of an item before the empty one. -/
def Item.lines : Item → List (List Char)
  | .message m =>
      ['i' :: 'd' :: ':' :: ' ' :: m.id, 'e' :: 'v' :: 'e' :: 'n' :: 't' :: ':' :: ' ' :: m.event,
        'd' :: 'a' :: 't' :: 'a' :: ':' :: ' ' :: m.data]
  | .comment text => [':' :: text]

/-- Lines with their ends. -/
def unlines (lines : List (List Char)) : List Char := lines.flatMap (· ++ ['\n'])

/-- The text of an item. -/
def Item.text (item : Item) : List Char := unlines item.lines ++ ['\n']

/-- The text of a stream. -/
def text (items : List Item) : List Char := items.flatMap Item.text

/-- The events among the items. -/
def messages (items : List Item) : List Message :=
  items.filterMap fun item =>
    match item with
    | .message m => some m
    | .comment _ => none

/-! ### Reading -/

/-- The buffers of the fields, the last identifier and the events dispatched. -/
structure Fields where
  idBuffer : List Char := []
  eventBuffer : List Char := []
  dataBuffer : List Char := []
  lastId : List Char := []
  dispatched : List Message := []
  deriving DecidableEq, Repr

/-- The field of a line and its value, without one blank before it. -/
def field (line : List Char) : List Char × List Char :=
  let value := (line.dropWhile (· ≠ ':')).drop 1
  (line.takeWhile (· ≠ ':'), if value.head? = some ' ' then value.drop 1 else value)

/-- What a field does. -/
def Fields.set (s : Fields) (name value : List Char) : Fields :=
  if name = ['e', 'v', 'e', 'n', 't'] then { s with eventBuffer := value }
  else if name = ['d', 'a', 't', 'a'] then { s with dataBuffer := s.dataBuffer ++ value ++ ['\n'] }
  else if name = ['i', 'd'] then
    if '\x00' ∈ value then s else { s with idBuffer := value }
  else s

/-- Dispatch the event in the buffers; one without data is dropped. -/
def Fields.dispatch (s : Fields) : Fields :=
  { s with
    eventBuffer := []
    dataBuffer := []
    lastId := s.idBuffer
    dispatched :=
      if s.dataBuffer = [] then s.dispatched
      else s.dispatched ++
        [⟨s.idBuffer,
          if s.eventBuffer = [] then ['m', 'e', 's', 's', 'a', 'g', 'e'] else s.eventBuffer,
          s.dataBuffer.dropLast⟩] }

/-- What a whole line does. -/
def Fields.processLine (s : Fields) (line : List Char) : Fields :=
  if line = [] then s.dispatch
  else if line.head? = some ':' then s
  else s.set (field line).1 (field line).2

/-- The state of a client: the unfinished line, and whether a carriage return ended the one
before. -/
structure Reader where
  line : List Char := []
  carriage : Bool := false
  fields : Fields := {}
  deriving DecidableEq, Repr

/-- One character. -/
def Reader.feed (s : Reader) (c : Char) : Reader :=
  if c = '\n' ∧ s.carriage then { s with carriage := false }
  else if c = '\n' ∨ c = '\r' then ⟨[], c = '\r', s.fields.processLine s.line⟩
  else ⟨s.line ++ [c], false, s.fields⟩

/-- Read a text. -/
def Reader.read (s : Reader) (text : List Char) : Reader := text.foldl Reader.feed s

/-- A client between two events that has received an identifier and events before. -/
def Reader.between (lastId : List Char) (dispatched : List Message) : Reader :=
  { fields := { idBuffer := lastId, lastId := lastId, dispatched := dispatched } }

/-! ### What reading does -/

variable {fields : Fields} {line : List Char} {m : Message} {item : Item} {items : List Item}
  {lastId : List Char} {dispatched : List Message}

/-- A text may arrive in any pieces. -/
theorem read_append (s : Reader) (text rest : List Char) :
    s.read (text ++ rest) = (s.read text).read rest :=
  List.foldl_append

/-- The characters of a line. -/
def OnLine (line : List Char) : Prop := ∀ c ∈ line, c ≠ '\n' ∧ c ≠ '\r'

/-- Reading within a line. -/
theorem read_onLine (before : List Char) (hline : OnLine line) :
    Reader.read ⟨before, false, fields⟩ line = ⟨before ++ line, false, fields⟩ := by
  induction line generalizing before with
  | nil => simp [Reader.read]
  | cons c line ih =>
      obtain ⟨hnewline, hreturn⟩ := hline c List.mem_cons_self
      have hfeed : Reader.feed ⟨before, false, fields⟩ c = ⟨before ++ [c], false, fields⟩ := by
        simp only [Reader.feed, hnewline, hreturn, false_and, or_false, if_false]
      have hrest := ih (before ++ [c]) fun d hd => hline d (List.mem_cons_of_mem _ hd)
      rw [List.append_assoc, List.singleton_append] at hrest
      rw [← hrest, ← hfeed]
      rfl

/-- Reading a whole line. -/
theorem read_line (fields : Fields) (hline : OnLine line) :
    Reader.read ⟨[], false, fields⟩ (line ++ ['\n']) =
      ⟨[], false, fields.processLine line⟩ := by
  rw [read_append, read_onLine [] hline]
  simp [Reader.read, Reader.feed]

/-- Reading lines. -/
theorem read_unlines (fields : Fields) (lines : List (List Char)) (hlines : ∀ l ∈ lines, OnLine l) :
    Reader.read ⟨[], false, fields⟩ (unlines lines) =
      ⟨[], false, lines.foldl Fields.processLine fields⟩ := by
  induction lines generalizing fields with
  | nil => rfl
  | cons l lines ih =>
      rw [unlines, List.flatMap_cons, read_append, read_line fields (hlines l List.mem_cons_self)]
      exact ih _ fun l' hl' => hlines l' (List.mem_cons_of_mem _ hl')

/-- An item that can be sent: its parts are on one line each, and an event has a type. -/
def Item.Sendable : Item → Prop
  | .message m => OnLine m.id ∧ '\x00' ∉ m.id ∧ OnLine m.event ∧ m.event ≠ [] ∧ OnLine m.data
  | .comment text => OnLine text

theorem onLine_cons {c : Char} (hnewline : c ≠ '\n') (hreturn : c ≠ '\r') (h : OnLine line) :
    OnLine (c :: line) :=
  List.forall_mem_cons.mpr ⟨⟨hnewline, hreturn⟩, h⟩

theorem Item.Sendable.lines (h : item.Sendable) : ∀ l ∈ item.lines, OnLine l := by
  cases item with
  | message m =>
      obtain ⟨hid, -, hevent, -, hdata⟩ := h
      simp only [Item.lines, List.mem_cons, List.not_mem_nil, or_false]
      rintro l (rfl | rfl | rfl)
      all_goals
        repeat' refine onLine_cons (by decide) (by decide) ?_
        assumption
  | comment text =>
      simp only [Item.lines, List.mem_singleton]
      rintro l rfl
      exact onLine_cons (by decide) (by decide) h

/-- The identifier after an item. -/
def Item.idAfter (lastId : List Char) : Item → List Char
  | .message m => m.id
  | .comment _ => lastId

theorem messages_append (items more : List Item) :
    messages (items ++ more) = messages items ++ messages more :=
  List.filterMap_append

/-- **An item** is dispatched at its end. -/
theorem read_item (h : item.Sendable) (lastId : List Char) (dispatched : List Message) :
    (Reader.between lastId dispatched).read item.text =
      Reader.between (item.idAfter lastId) (dispatched ++ messages [item]) := by
  rw [Item.text, read_append, Reader.between, read_unlines _ _ h.lines]
  cases item with
  | message m =>
      obtain ⟨-, hnull, -, hevent, -⟩ := h
      simp [Item.lines, Fields.processLine, Fields.set, field, hnull, Reader.read, Reader.feed,
        Fields.dispatch, hevent, Reader.between, Item.idAfter, messages]
  | comment text =>
      simp [Item.lines, Fields.processLine, Reader.read, Reader.feed, Fields.dispatch,
        Reader.between, Item.idAfter, messages]

/-- The identifier after some items. -/
def idAfter (lastId : List Char) (items : List Item) : List Char := items.foldl Item.idAfter lastId

/-- **What is written is what is dispatched.** -/
theorem read_text (items : List Item) (h : ∀ item ∈ items, item.Sendable) (lastId : List Char)
    (dispatched : List Message) :
    (Reader.between lastId dispatched).read (text items) =
      Reader.between (idAfter lastId items) (dispatched ++ messages items) := by
  induction items generalizing lastId dispatched with
  | nil => simp [text, Reader.read, idAfter, messages]
  | cons item items ih =>
      rw [text, List.flatMap_cons, read_append, read_item (h item List.mem_cons_self)]
      refine (ih (fun item' h' => h item' (List.mem_cons_of_mem _ h')) _ _).trans ?_
      rw [List.append_assoc, ← messages_append]
      rfl

/-- It is the identifier of the last event. -/
theorem idAfter_eq (lastId : List Char) (items : List Item) :
    idAfter lastId items = ((messages items).getLast?.map (·.id)).getD lastId := by
  induction items using List.reverseRecOn with
  | nil => rfl
  | append_singleton items item ih =>
      have hlast : idAfter lastId (items ++ [item]) = item.idAfter (idAfter lastId items) := by
        rw [idAfter, idAfter, List.foldl_append, List.foldl_cons, List.foldl_nil]
      rw [hlast, ih, messages_append]
      cases item with
      | message m => simp [messages, Item.idAfter]
      | comment text => simp [messages, Item.idAfter]

/-! ### Broken connections -/

/-- Nothing was dispatched. -/
def Fields.Keeps (fields fields' : Fields) : Prop :=
  fields'.dispatched = fields.dispatched ∧ fields'.lastId = fields.lastId

/-- A line that is not empty dispatches nothing. -/
theorem Fields.keeps_processLine (fields : Fields) (h : line ≠ []) :
    fields.Keeps (fields.processLine line) := by
  unfold Fields.processLine Fields.set
  rw [if_neg h]
  split_ifs <;> exact ⟨rfl, rfl⟩

/-- The beginning of a line and its end. -/
theorem prefix_line {received : List Char} (h : received <+: line ++ ['\n']) :
    received = line ++ ['\n'] ∨ received <+: line :=
  List.prefix_concat_iff.mp h

/-- A beginning of lines that are not empty dispatches nothing. -/
theorem keeps_of_prefix_unlines {lines : List (List Char)} {received : List Char}
    (hlines : ∀ l ∈ lines, OnLine l ∧ l ≠ []) (fields : Fields)
    (h : received <+: unlines lines) :
    fields.Keeps (Reader.read ⟨[], false, fields⟩ received).fields := by
  induction lines generalizing received fields with
  | nil =>
      obtain rfl : received = [] := List.prefix_nil.mp h
      exact ⟨rfl, rfl⟩
  | cons l lines ih =>
      obtain ⟨hline, hne⟩ := hlines l List.mem_cons_self
      have hkeeps := fields.keeps_processLine hne
      rw [unlines, List.flatMap_cons] at h
      rcases List.prefix_or_prefix_of_prefix h (List.prefix_append _ _) with hshort | ⟨more, rfl⟩
      · rcases prefix_line hshort with rfl | ⟨more, rfl⟩
        · rw [read_line fields hline]
          exact hkeeps
        · have hbeginning : OnLine received := fun c hc => hline c (List.mem_append_left _ hc)
          rw [read_onLine [] hbeginning]
          exact ⟨rfl, rfl⟩
      · rw [List.prefix_append_right_inj] at h
        have hmore := ih (fun l' hl' => hlines l' (List.mem_cons_of_mem _ hl'))
          (fields.processLine l) h
        rw [read_append, read_line fields hline]
        exact ⟨hmore.1.trans hkeeps.1, hmore.2.trans hkeeps.2⟩

theorem Item.Sendable.lines_ne (item : Item) : ∀ l ∈ item.lines, l ≠ [] := by
  cases item <;> simp [Item.lines]

/-- **A broken connection**: whatever part of a text has arrived, the events of the first items
were dispatched, and the last identifier is that of the last of these. -/
theorem exists_read_of_prefix (items : List Item) (hsendable : ∀ item ∈ items, item.Sendable)
    {received : List Char} (h : received <+: text items) (lastId : List Char)
    (dispatched : List Message) :
    ∃ done, done <+: items ∧
      ((Reader.between lastId dispatched).read received).fields.dispatched =
        dispatched ++ messages done ∧
      ((Reader.between lastId dispatched).read received).fields.lastId = idAfter lastId done := by
  induction items generalizing received lastId dispatched with
  | nil =>
      obtain rfl : received = [] := List.prefix_nil.mp h
      exact ⟨[], List.prefix_rfl, by simp [Reader.read, Reader.between, messages], rfl⟩
  | cons item items ih =>
      have hitem := hsendable item List.mem_cons_self
      rw [text, List.flatMap_cons] at h
      rcases List.prefix_or_prefix_of_prefix h (List.prefix_append _ _) with hshort | ⟨more, rfl⟩
      · rcases prefix_line hshort with rfl | hbeginning
        · refine ⟨[item], by simp, ?_⟩
          rw [← Item.text, read_item hitem]
          exact ⟨rfl, rfl⟩
        · obtain ⟨hdispatched, hlast⟩ := keeps_of_prefix_unlines
            (fun l hl => ⟨hitem.lines l hl, Item.Sendable.lines_ne item l hl⟩)
            (Reader.between lastId dispatched).fields hbeginning
          refine ⟨[], List.nil_prefix, ?_, hlast⟩
          exact hdispatched.trans (List.append_nil dispatched).symm
      · rw [List.prefix_append_right_inj] at h
        obtain ⟨done, hdone, hdispatched, hlast⟩ :=
          ih (fun item' h' => hsendable item' (List.mem_cons_of_mem _ h')) h
            (item.idAfter lastId) (dispatched ++ messages [item])
        refine ⟨item :: done, List.cons_prefix_cons.mpr ⟨rfl, hdone⟩, ?_⟩
        rw [read_append, read_item hitem]
        refine ⟨?_, hlast⟩
        rw [hdispatched, List.append_assoc, ← messages_append, List.singleton_append]

end ServerSentEvents
