import Kanban.Board.Document
import Kanban.Proofs.Dict

/-!
# `Proofs.Board.Document` — boards are read back from their documents

A board is read back from the document that it is written as, whatever is on it: its two records of ownership
need not agree, and a card need not have the key that it is stored under. All that can go wrong is a width that
is not finite. There is no numeral for it, so `null` is written in its place, and that is not read as a width.

Documents are values here: records, lists, texts and numbers, and the number of a width is the double itself.
How a value is put down as JSON text and read again is left out. A text has decimal digits, and a reader that
does not round them to the nearest double misses widths such as `13/11` by one unit in the last place. So a
width that has gone through a text need not be the one that was written.

A document may also spell records in another way than boards do. Every record can be the list of its fields,
and the mark of a card that is not being dragged can be left out. Each record of a board may be worded in a way
of its own.

## Contents
- `Wording`, `Board.Style`, `Board.worded`: the ways to write a board; `worded_full`: the usual one.
- `mapM_of_ok`, `mapM_of_error`: many things read one after another.
- `Card.ofPayload_worded`, `Container.ofPayload_worded`: cards and containers read back.
- `Board.ofPayload_worded`, `cards_worded`, `cards_worded_of_not_finite`: boards, as far as their cards are.
- `Board.widthWritten`: what a document has as the width of a card.
- `Board.load_worded`: boards read back from documents.
-/

namespace Kanban

/-! ## The ways to write a board -/

/-- A way to spell a record. -/
inductive Wording where
  /-- With all fields under their names. -/
  | full
  /-- With fields under their names, but without a mark that a card does not have. -/
  | brief
  /-- As the list of all fields. -/
  | listed
  deriving DecidableEq, Repr

/-- A card in a wording. -/
def Card.worded (c : Card) : Wording → Payload
  | .full => c.toPayload
  | .brief =>
    if c.dragging then c.toPayload
    else .ofFields [("id", .text c.id), ("issue", c.issue), ("container", .text c.container),
      ("width", .ofFloat c.width)]
  | .listed => .list [.text c.id, c.issue, .text c.container, .ofFloat c.width, .flag c.dragging]

/-- A container in a wording. It has no mark to be left out. -/
def Container.worded (k : Container) : Wording → Payload
  | .full | .brief => k.toPayload
  | .listed => .list [.text k.id, .ofTexts k.cards, .flag k.droppable]

namespace Board

/-- The wording of each record of a board. -/
structure Style where
  board : Wording
  /-- The wording of the container at a position. -/
  container : Nat → Wording
  /-- The wording of the card under a key. -/
  card : String → Wording

/-- The same wording for all records. -/
def Style.uniform (w : Wording) : Style := ⟨w, fun _ => w, fun _ => w⟩

/-- The containers of a board, each in its wording. -/
def wordedContainers (b : Board) (s : Style) : List Payload :=
  b.containers.zipIdx.map fun (k, i) => k.worded (s.container i)

/-- The cards of a board under their keys, each in its wording. -/
def wordedCards (b : Board) (s : Style) : List (String × Payload) :=
  b.cards.entries.map fun (id, c) => (id, c.worded (s.card id))

/-- A board with each record in its wording. The cards are no record, but a map. -/
def worded (b : Board) (s : Style) : Payload :=
  match s.board with
  | .full | .brief =>
    .ofFields [("containers", .list (b.wordedContainers s)), ("cards", .record (b.wordedCards s))]
  | .listed => .list [.list (b.wordedContainers s), .record (b.wordedCards s)]

/-- The usual way to write a board is full. -/
theorem worded_full (b : Board) : b.worded (.uniform .full) = b.toPayload := by
  have hcontainers : b.wordedContainers (.uniform .full) = b.containers.map Container.toPayload := by
    show b.containers.zipIdx.map (Container.toPayload ∘ Prod.fst) = _
    rw [← List.map_map, List.zipIdx_map_fst]
  show Payload.ofFields [("containers", .list (b.wordedContainers _)), _] = _
  rw [hcontainers]
  rfl

end Board

/-! ## One after another -/

section Decoded

variable {α β γ : Type} {fault : DecodeFault}

theorem ok_bind (a : α) (f : α → Decoded β) : (Except.ok a >>= f) = f a := rfl

/-- What is read back one by one is read back as a list. -/
theorem mapM_of_ok {f : β → Decoded γ} {write : α → β} {g : α → γ} {l : List α}
    (h : ∀ a ∈ l, f (write a) = .ok (g a)) : (l.map write).mapM f = .ok (l.map g) := by
  induction l with
  | nil => rfl
  | cons a rest ih =>
    rw [List.map_cons, List.mapM_cons, h a List.mem_cons_self, ih fun b hb => h b (List.mem_cons_of_mem _ hb)]
    rfl

/-- Where some are refused, all for the same reason, the list is refused for it. -/
theorem mapM_of_error {f : β → Decoded γ} {l : List β} (h : ∀ b ∈ l, (∃ c, f b = .ok c) ∨ f b = .error fault)
    (hbad : ∃ b ∈ l, f b = .error fault) : l.mapM f = .error fault := by
  induction l with
  | nil =>
    obtain ⟨_, hb, _⟩ := hbad
    cases hb
  | cons b rest ih =>
    rw [List.mapM_cons]
    obtain ⟨c, hc⟩ | hfirst := h b List.mem_cons_self
    · have hlater : ∃ b ∈ rest, f b = .error fault := by
        obtain ⟨b', hb', hfault⟩ := hbad
        rcases List.mem_cons.mp hb' with rfl | hb'
        · rw [hc] at hfault
          cases hfault
        · exact ⟨b', hb', hfault⟩
      rw [hc, ok_bind, ih (fun b' hb' => h b' (List.mem_cons_of_mem _ hb')) hlater]
      rfl
    · rw [hfirst]
      rfl

end Decoded

/-! ## Records and lists -/

section Records

variable {δ : Type} {shape : Shape Payload δ} {blank : δ}

@[simp] theorem Payload.view_list (items : List Payload) : (Payload.list items).view = .list items := rfl
@[simp] theorem Payload.view_record (fields : List (String × Payload)) :
    (Payload.record fields).view = .record fields := rfl

theorem Payload.readRecord_record (fields : List (String × Payload)) :
    (Payload.record fields).readRecord shape blank =
      (fields.foldlM (shape.put fun _ => .ok ()) blank).map fun d => (.named, d) := by
  simp only [readRecord, view_record, Shape.read]
  cases fields.foldlM (shape.put fun _ => .ok ()) blank <;> rfl

/-- A list that is not too long. -/
theorem Payload.readRecord_list {items : List Payload} (h : items.length ≤ shape.fields.length) :
    (Payload.list items).readRecord shape blank =
      (Shape.fill shape.fields items blank).map fun d => (.listed shape.complete, d) := by
  simp only [readRecord, view_list, Shape.read, if_neg (Nat.not_lt.mpr h)]
  cases Shape.fill shape.fields items blank <;> rfl

end Records

/-! ## Cards -/

/-- What is said about a width that is not there. -/
def widthFault : DecodeFault := .invalidType .null "f64"

namespace Card

/-- The fields of a card in the order of their names. -/
theorem toPayload_eq (c : Card) :
    c.toPayload = .record [("container", .text c.container), ("dragging", .flag c.dragging), ("id", .text c.id),
      ("issue", c.issue), ("width", .ofFloat c.width)] := by
  simp only [toPayload, Payload.ofFields, Dict.ofList, Dict.empty, List.foldl_cons, List.foldl_nil, Dict.insert,
    Dict.insertEntry, String.reduceLT, String.reduceEq, if_true, if_false]

theorem brief_eq (c : Card) (h : c.dragging = false) :
    c.worded .brief = .record [("container", .text c.container), ("id", .text c.id), ("issue", c.issue),
      ("width", .ofFloat c.width)] := by
  simp only [worded, h, Payload.ofFields, Dict.ofList, Dict.empty, List.foldl_cons, List.foldl_nil, Dict.insert,
    Dict.insertEntry, String.reduceLT, String.reduceEq, if_true, if_false, Bool.false_eq_true]

/-- **A card is read back** from any wording, unless its width is not there. -/
theorem ofPayload_worded (c : Card) (w : Wording) :
    ofPayload (c.worded w) = if c.width.isFinite then .ok c else .error widthFault := by
  have hfull : ofPayload c.toPayload = if c.width.isFinite then .ok c else .error widthFault := by
    rw [toPayload_eq, Payload.ofFloat]
    split <;> rfl
  cases w with
  | full => exact hfull
  | brief =>
    cases hmark : c.dragging with
    | true =>
      rw [worded, if_pos hmark]
      exact hfull
    | false =>
      -- A mark that is left out is none.
      have hsame : Card.mk c.id c.issue c.container c.width false = c := by rw [← hmark]
      rw [brief_eq c hmark, Payload.ofFloat]
      split
      · exact congrArg Except.ok hsame
      · rfl
  | listed =>
    rw [worded, Payload.ofFloat]
    split <;> rfl

end Card

/-! ## Containers -/

namespace Container

theorem toPayload_eq (k : Container) :
    k.toPayload = .record [("cards", .ofTexts k.cards), ("droppable", .flag k.droppable), ("id", .text k.id)] := by
  simp only [toPayload, Payload.ofFields, Dict.ofList, Dict.empty, List.foldl_cons, List.foldl_nil, Dict.insert,
    Dict.insertEntry, String.reduceLT, String.reduceEq, if_true, if_false]

/-- The cards of a container are read back. -/
theorem shape_cards (skip : Payload → Decoded Unit) (d : Draft) (ts : List String) :
    shape.put skip d ("cards", .ofTexts ts) = .ok { d with cards := some ts } := by
  have hread : (ts.map Payload.text).mapM (·.view.asText) = .ok (ts.map fun t => t) :=
    mapM_of_ok fun _ _ => rfl
  show ((ts.map Payload.text).mapM (·.view.asText) >>= _) = _
  rw [hread, List.map_id']
  rfl

/-- **A container is read back** from any wording. -/
theorem ofPayload_worded (k : Container) (w : Wording) : ofPayload (k.worded w) = .ok k := by
  have hfull : ofPayload k.toPayload = .ok k := by
    rw [toPayload_eq, ofPayload, Payload.readRecord_record, List.foldlM_cons, shape_cards]
    rfl
  have hlisted : ofPayload (k.worded .listed) = .ok k := by
    have hfill : Shape.fill shape.fields [.text k.id, .ofTexts k.cards, .flag k.droppable] ⟨none, none, none⟩ =
        .ok ⟨some k.id, some k.cards, some k.droppable⟩ := by
      show (shape.put (fun _ => .ok ()) _ ("cards", .ofTexts k.cards) >>= _) = _
      rw [shape_cards]
      rfl
    rw [worded, ofPayload, Payload.readRecord_list, hfill]
    · rfl
    · exact Nat.le_refl 3
  cases w with
  | full => exact hfull
  | brief => exact hfull
  | listed => exact hlisted

end Container

/-! ## Boards -/

namespace Board

theorem containers_worded (b : Board) (s : Style) :
    (b.wordedContainers s).mapM Container.ofPayload = .ok b.containers := by
  rw [wordedContainers, mapM_of_ok fun p _ => p.1.ofPayload_worded _, List.zipIdx_map_fst]

theorem toPayload_fields (containers cards : Payload) :
    Payload.ofFields [("containers", containers), ("cards", cards)] =
      .record [("cards", cards), ("containers", containers)] := by
  simp only [Payload.ofFields, Dict.ofList, Dict.empty, List.foldl_cons, List.foldl_nil, Dict.insert,
    Dict.insertEntry, String.reduceLT, if_true]

/-- The containers of a board are read back. -/
theorem shape_containers (skip : Payload → Decoded Unit) (d : Draft) (b : Board) (s : Style) :
    shape.put skip d ("containers", .list (b.wordedContainers s)) =
      .ok { d with containers := some b.containers } := by
  show ((b.wordedContainers s).mapM Container.ofPayload >>= _) = _
  rw [containers_worded]
  rfl

theorem shape_cards (skip : Payload → Decoded Unit) (d : Draft) (p : Payload) :
    shape.put skip d ("cards", p) = (cardsOfPayload p).map fun cards => { d with cards := some cards } := by
  show (cardsOfPayload p >>= _) = _
  cases cardsOfPayload p <;> rfl

/-- Whether a board is read back is left to its cards. -/
theorem ofPayload_worded (b : Board) (s : Style) :
    ofPayload (b.worded s) =
      (cardsOfPayload (.record (b.wordedCards s))).map fun cards => ⟨b.containers, cards⟩ := by
  have hnamed : ofPayload
      (.ofFields [("containers", .list (b.wordedContainers s)), ("cards", .record (b.wordedCards s))]) =
      (cardsOfPayload (.record (b.wordedCards s))).map fun cards => ⟨b.containers, cards⟩ := by
    have hput : [("cards", .record (b.wordedCards s)), ("containers", .list (b.wordedContainers s))].foldlM
          (shape.put fun _ => .ok ()) ⟨none, none⟩ =
        (cardsOfPayload (.record (b.wordedCards s))).map fun cards => ⟨some b.containers, some cards⟩ := by
      rw [List.foldlM_cons, shape_cards]
      cases cardsOfPayload (.record (b.wordedCards s)) with
      | error fault => rfl
      | ok cards =>
        show [_].foldlM (shape.put fun _ => .ok ()) _ = _
        rw [List.foldlM_cons, shape_containers]
        rfl
    rw [toPayload_fields, ofPayload, Payload.readRecord_record, hput]
    cases cardsOfPayload (.record (b.wordedCards s)) <;> rfl
  have hlisted : ofPayload (.list [.list (b.wordedContainers s), .record (b.wordedCards s)]) =
      (cardsOfPayload (.record (b.wordedCards s))).map fun cards => ⟨b.containers, cards⟩ := by
    have hfill : Shape.fill shape.fields [.list (b.wordedContainers s), .record (b.wordedCards s)] ⟨none, none⟩ =
        (cardsOfPayload (.record (b.wordedCards s))).map fun cards => ⟨some b.containers, some cards⟩ := by
      show (shape.put (fun _ => .ok ()) _ ("containers", .list (b.wordedContainers s)) >>= _) = _
      rw [shape_containers]
      show (shape.put (fun _ => .ok ()) _ ("cards", .record (b.wordedCards s)) >>= _) = _
      rw [shape_cards]
      cases cardsOfPayload (.record (b.wordedCards s)) <;> rfl
    rw [ofPayload, Payload.readRecord_list, hfill]
    · cases cardsOfPayload (.record (b.wordedCards s)) <;> rfl
    · exact Nat.le_refl 2
  unfold worded
  cases s.board with
  | full => exact hnamed
  | brief => exact hnamed
  | listed => exact hlisted

/-- A card is read back under its key, whatever its own identifier is. -/
def readEntry (e : String × Payload) : Decoded (String × Card) := (Card.ofPayload e.2).map fun c => (e.1, c)

theorem cardsOfPayload_record (fields : List (String × Payload)) :
    cardsOfPayload (.record fields) = (fields.mapM readEntry).map Dict.ofList := by
  have hsame : (fun e : String × Payload => do return (e.1, ← Card.ofPayload e.2)) = readEntry := by
    funext e
    rw [readEntry]
    cases Card.ofPayload e.2 <;> rfl
  show (fields.mapM (fun e : String × Payload => do return (e.1, ← Card.ofPayload e.2)) >>= _) = _
  rw [hsame]
  cases fields.mapM readEntry <;> rfl

theorem readEntry_worded (id : String) (c : Card) (w : Wording) :
    readEntry (id, c.worded w) = if c.width.isFinite then .ok (id, c) else .error widthFault := by
  rw [readEntry, Card.ofPayload_worded]
  split <;> rfl

/-- Every card has a finite width. -/
def Measured (b : Board) : Prop := ∀ id c, b.card? id = some c → c.width.isFinite = true

/-- Cards with widths are read back. -/
theorem cards_worded {b : Board} (h : b.Measured) (s : Style) :
    cardsOfPayload (.record (b.wordedCards s)) = .ok b.cards := by
  have hread : (b.wordedCards s).mapM readEntry = .ok (b.cards.entries.map fun e => e) := by
    refine mapM_of_ok fun e he => ?_
    rw [readEntry_worded, if_pos (h e.1 e.2 (Dict.mem_entries.mp he))]
  rw [cardsOfPayload_record, hread, List.map_id', Except.map, Dict.ofList_entries]

/-- Without the width of one card, no cards are read back. -/
theorem cards_worded_of_not_finite {b : Board} {id : String} {c : Card} (hc : b.card? id = some c)
    (h : c.width.isFinite = false) (s : Style) :
    cardsOfPayload (.record (b.wordedCards s)) = .error widthFault := by
  have hread : (b.wordedCards s).mapM readEntry = .error widthFault := by
    refine mapM_of_error (fun p hp => ?_) ⟨_, List.mem_map_of_mem (Dict.mem_entries.mpr hc), ?_⟩
    · obtain ⟨⟨key, other⟩, -, rfl⟩ := List.mem_map.mp hp
      rw [readEntry_worded]
      split
      · exact .inl ⟨_, rfl⟩
      · exact .inr rfl
    · rw [readEntry_worded, h]
      rfl
  rw [cardsOfPayload_record, hread]
  rfl

theorem load_of_measured {b : Board} (h : b.Measured) (s : Style) : load (b.worded s) = .ok b := by
  rw [load, ofPayload_worded, cards_worded h]
  rfl

theorem load_of_not_finite {b : Board} {id : String} {c : Card} (hc : b.card? id = some c)
    (h : c.width.isFinite = false) (s : Style) :
    load (b.worded s) = .error (.serialization "invalid type: null, expected f64") := by
  rw [load, ofPayload_worded, cards_worded_of_not_finite hc h]
  rfl

end Board

/-! ## The place of a width -/

/-- What a document has under a name. -/
def Payload.field? (p : Payload) (name : String) : Option Payload :=
  match p with
  | record fields => fields.lookup name
  | _ => none

namespace Board

/-- What the document of a board has as the width of the card under a key. -/
def widthWritten (b : Board) (id : String) : Option Payload := do
  let cards ← b.toPayload.field? "cards"
  let card ← cards.field? id
  card.field? "width"

theorem widthWritten_eq {b : Board} {id : String} {c : Card} (hc : b.card? id = some c) :
    b.widthWritten id = some (.ofFloat c.width) := by
  have hcards : b.toPayload.field? "cards" =
      some (.record (b.cards.mapValues Card.toPayload).entries) := by
    rw [toPayload, toPayload_fields]
    rfl
  have hcard : (Payload.record (b.cards.mapValues Card.toPayload).entries).field? id = some c.toPayload := by
    show (b.cards.mapValues Card.toPayload).get? id = _
    rw [Dict.get?_mapValues, show b.cards.get? id = some c from hc, Option.map_some]
  rw [widthWritten, hcards, Option.bind_eq_bind, Option.bind_some, hcard, Option.bind_some, Card.toPayload_eq]
  rfl

/-! ## Boards read back from documents -/

/-- **A board is read back** from its document and from every other wording of it, exactly if all widths are
    finite. What is read is the same board. Where a width is not finite, the document has `null` in its place,
    and all wordings are refused. -/
theorem load_worded (b : Board) :
    b.worded (.uniform .full) = b.toPayload ∧
    (∀ s, ((∃ b', load (b.worded s) = .ok b') ↔ ∀ id c, b.card? id = some c → c.width.isFinite = true) ∧
      ∀ b', load (b.worded s) = .ok b' → b' = b) ∧
    ∀ id c, b.card? id = some c → c.width.isFinite = false →
      b.widthWritten id = some .null ∧
      ∀ s, load (b.worded s) = .error (.serialization "invalid type: null, expected f64") := by
  refine ⟨b.worded_full, fun s => ?_, fun id c hc h => ⟨?_, load_of_not_finite hc h⟩⟩
  · have hmeasured : ∀ {b'}, load (b.worded s) = .ok b' → b.Measured := fun {b'} hload id c hc => by
      cases h : c.width.isFinite with
      | true => rfl
      | false =>
        rw [load_of_not_finite hc h] at hload
        cases hload
    refine ⟨⟨fun ⟨b', hload⟩ => hmeasured hload, fun h => ⟨b, load_of_measured h s⟩⟩, fun b' hload => ?_⟩
    rw [load_of_measured (hmeasured hload)] at hload
    exact (Except.ok.inj hload).symm
  · rw [widthWritten_eq hc, Payload.ofFloat, h]
    rfl

/-- A board whose two containers have one identifier and list a card that is not there, with one card of some
    width under a key that is not its own. -/
def stray (width : Float) : Board where
  containers := [⟨"todo", ["c1", "ghost"], true⟩, ⟨"todo", [], false⟩]
  cards := Dict.empty.insert "c1" ⟨"c2", .null, "nowhere", width, false⟩

/-- A list for the board, lists and records for its containers, and no marks on its cards. -/
def mixedStyle : Style := ⟨.listed, fun i => if i = 0 then .listed else .full, fun _ => .brief⟩

theorem load_worded_stray :
    load ((stray 300).worded mixedStyle) = .ok (stray 300) ∧
    (stray (1 / 0)).widthWritten "c1" = some .null ∧
    ∀ s, load ((stray (1 / 0)).worded s) = .error (.serialization "invalid type: null, expected f64") := by
  have hcard : ∀ width, (stray width).card? "c1" = some ⟨"c2", .null, "nowhere", width, false⟩ := fun _ => rfl
  refine ⟨?_, (load_worded (stray (1 / 0))).2.2 "c1" _ (hcard _) (by decide)⟩
  have hmeasured : ∀ id c, (stray 300).card? id = some c → c.width.isFinite = true := by
    intro id c hc
    rw [card?, stray, Dict.get?_insert, Dict.get?_empty] at hc
    split at hc
    · cases hc
      decide
    · cases hc
  obtain ⟨b', hload⟩ := ((load_worded (stray 300)).2.1 mixedStyle).1.mpr hmeasured
  rw [hload, ((load_worded (stray 300)).2.1 mixedStyle).2 b' hload]

end Board

end Kanban
