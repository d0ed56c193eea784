import Mathlib.Data.List.Basic
import Mathlib.Data.List.TakeWhile
import Mathlib.Tactic.Conv
import Kanban.Scenario.Template

/-!
# `Proofs.Scenario.Template` — a text is filled piece by piece

The references of a text are found by a scan from left to right, which goes on behind every reference that it
finds. No reference reaches across a closing brace, so the text can be cut after each of them, and every piece
is filled by itself: it holds one reference at most, from the first opening in it to its end.

## Contents
- `Template.cut`, `text_cut`: a text cut after every closing brace.
- `Template.OpensFirst`, `opening?_eq_some`, `opening?_eq_none`: the first opening in a piece that has a name.
- `splitName_of_name`, `splitName_of_brace`, `splitName_of_open`: where a name ends.
- `Template.Scans`: a scan from left to right; `Scans.piece`, `Scans.open`, `Scans.joined`: what it makes of one
  piece, of the rest and of a text.
- `fillPiece`, `nameOf?`, `fillChars_joined`, `namesIn_joined`: pieces filled, and the variables they refer to.
- `toList_fill`, `names_eq`, `fill_reference`, `fill_congr`, `fill_of_unset`, `fill_append`: texts.
- `fill_pieces`: a text and its pieces.
-/

namespace Kanban.Template

/-! ## Cutting a text -/

/-- A text cut after every closing brace: the pieces without their braces, and the rest after the last one. -/
def cut : List Char → List (List Char) × List Char
  | [] => ([], [])
  | c :: cs =>
    if c = '\x7d' then ([] :: (cut cs).1, (cut cs).2)
    else
      match cut cs with
      | ([], rest) => ([], c :: rest)
      | (piece :: pieces, rest) => ((c :: piece) :: pieces, rest)

/-- Pieces and the rest put together again. -/
def joined (pieces : List (List Char)) (rest : List Char) : List Char :=
  pieces.flatMap (· ++ ['\x7d']) ++ rest

/-- **A text is its pieces,** each with a closing brace behind it and none in it. -/
theorem text_cut (cs : List Char) :
    (∀ s ∈ (cut cs).1, '\x7d' ∉ s) ∧ '\x7d' ∉ (cut cs).2 ∧ joined (cut cs).1 (cut cs).2 = cs := by
  induction cs with
  | nil => simp [cut, joined]
  | cons c cs ih =>
    obtain ⟨hpieces, hrest, htext⟩ := ih
    by_cases hc : c = '\x7d'
    · rw [cut, if_pos hc]
      refine ⟨?_, hrest, ?_⟩
      · simpa using hpieces
      · calc
          joined ([] :: (cut cs).1) (cut cs).2 = '\x7d' :: joined (cut cs).1 (cut cs).2 := rfl
          _ = c :: cs := by rw [htext, hc]
    · rw [cut, if_neg hc]
      generalize cut cs = parts at hpieces hrest htext ⊢
      obtain ⟨pieces, rest⟩ := parts
      cases pieces with
      | nil =>
        refine ⟨hpieces, by simpa [Ne.symm hc] using hrest, ?_⟩
        rw [← htext]
        rfl
      | cons piece pieces =>
        refine ⟨?_, hrest, ?_⟩
        · intro s hs
          rcases List.mem_cons.mp hs with rfl | hs
          · simpa [Ne.symm hc] using hpieces piece List.mem_cons_self
          · exact hpieces s (List.mem_cons_of_mem _ hs)
        · rw [← htext]
          rfl

/-! ## Openings -/

/-- What stands before the first `$` and opening brace of a piece that have a name behind them, and the
    name. -/
def opening? : List Char → Option (List Char × List Char)
  | [] => none
  | '$' :: '\x7b' :: c :: cs => some ([], c :: cs)
  | c :: cs => (opening? cs).map fun (before, name) => (c :: before, name)

/-- A place in a piece at which a reference may begin. -/
def OpensAt (s before name : List Char) : Prop := s = before ++ '$' :: '\x7b' :: name ∧ name ≠ []

theorem opensAt_cons {c : Char} {cs before name : List Char} :
    OpensAt (c :: cs) before name ↔
      before = [] ∧ c = '$' ∧ cs = '\x7b' :: name ∧ name ≠ [] ∨
        ∃ before', before = c :: before' ∧ OpensAt cs before' name := by
  cases before with
  | nil => simp [OpensAt, and_assoc]
  | cons b before =>
    unfold OpensAt
    simp only [List.cons_append, List.cons.injEq, reduceCtorEq, false_and, false_or]
    constructor
    · rintro ⟨⟨hc, hcs⟩, hname⟩
      exact ⟨before, ⟨hc.symm, rfl⟩, hcs, hname⟩
    · rintro ⟨before', ⟨hc, rfl⟩, hcs, hname⟩
      exact ⟨⟨hc.symm, hcs⟩, hname⟩

/-- The first place in a piece at which a reference may begin. -/
def OpensFirst (s before name : List Char) : Prop :=
  OpensAt s before name ∧ ∀ before' name', OpensAt s before' name' → before.length ≤ before'.length

/-- **The first opening** of a piece. -/
theorem opening?_eq_some {s before name : List Char} :
    opening? s = some (before, name) ↔ OpensFirst s before name := by
  unfold OpensFirst
  fun_induction opening? s generalizing before name with
  | case1 => simp [OpensAt]
  | case2 c cs =>
    have hfirst : OpensAt ('$' :: '\x7b' :: c :: cs) [] (c :: cs) := ⟨rfl, List.cons_ne_nil c cs⟩
    constructor
    · intro h
      cases h
      exact ⟨hfirst, fun _ _ _ => Nat.zero_le _⟩
    · rintro ⟨⟨hs, _⟩, hleast⟩
      have hnil : before = [] := List.length_eq_zero_iff.mp (Nat.le_zero.mp (hleast _ _ hfirst))
      rw [hnil] at hs ⊢
      cases hs
      rfl
  | case3 c cs hother ih =>
    -- No reference begins at the first character, so all openings lie behind it.
    have hbehind : ∀ before name, OpensAt (c :: cs) before name →
        ∃ before', before = c :: before' ∧ OpensAt cs before' name := by
      intro before name h
      rcases opensAt_cons.mp h with ⟨_, hc, hcs, hname⟩ | hlater
      · obtain ⟨d, rest, rfl⟩ := List.exists_cons_of_ne_nil hname
        exact (hother d rest hc hcs).elim
      · exact hlater
    rw [Option.map_eq_some_iff]
    constructor
    · rintro ⟨⟨b, n⟩, hopening, heq⟩
      cases heq
      obtain ⟨hopens, hleast⟩ := ih.mp hopening
      refine ⟨opensAt_cons.mpr (Or.inr ⟨b, rfl, hopens⟩), fun before' name' h => ?_⟩
      obtain ⟨b', rfl, hb'⟩ := hbehind before' name' h
      exact Nat.succ_le_succ (hleast b' name' hb')
    · rintro ⟨hopens, hleast⟩
      obtain ⟨b, rfl, hb⟩ := hbehind before name hopens
      refine ⟨(b, name), ih.mpr ⟨hb, fun b' name' hb' => ?_⟩, rfl⟩
      exact Nat.le_of_succ_le_succ (hleast (c :: b') name' (opensAt_cons.mpr (Or.inr ⟨b', rfl, hb'⟩)))

/-- A piece without an opening. -/
theorem opening?_eq_none {s : List Char} : opening? s = none ↔ ∀ before name, ¬OpensAt s before name := by
  fun_induction opening? s with
  | case1 => simp [OpensAt]
  | case2 c cs =>
    refine ⟨fun h => (by cases h), fun h => ?_⟩
    exact (h [] (c :: cs) ⟨rfl, List.cons_ne_nil c cs⟩).elim
  | case3 c cs hother ih =>
    rw [Option.map_eq_none_iff, ih]
    constructor
    · intro h before name hopens
      rcases opensAt_cons.mp hopens with ⟨_, hc, hcs, hname⟩ | ⟨before', _, hlater⟩
      · obtain ⟨d, rest, rfl⟩ := List.exists_cons_of_ne_nil hname
        exact hother d rest hc hcs
      · exact h before' name hlater
    · intro h before name hopens
      exact h (c :: before) name (opensAt_cons.mpr (Or.inr ⟨before, rfl, hopens⟩))

/-! ## Names -/

theorem takeWhile_brace {name : List Char} (h : '\x7d' ∉ name) (rest : List Char) :
    (name ++ '\x7d' :: rest).takeWhile (· ≠ '\x7d') = name := by
  rw [List.takeWhile_append_of_pos]
  · simp
  · intro c hc
    have hne : c ≠ '\x7d' := fun heq => h (heq ▸ hc)
    simpa using hne

/-- A name ends at the first closing brace. -/
theorem splitName_of_name {name : List Char} (hname : name ≠ []) (h : '\x7d' ∉ name) (rest : List Char) :
    splitName (name ++ '\x7d' :: rest) = some (name, rest) := by
  simp only [splitName, takeWhile_brace h, List.drop_left]
  rw [if_neg (by simpa using hname)]

/-- A reference without a name is none. -/
theorem splitName_of_brace (rest : List Char) : splitName ('\x7d' :: rest) = none := by
  simp [splitName]

/-- A reference that is never closed is none. -/
theorem splitName_of_open {cs : List Char} (h : '\x7d' ∉ cs) : splitName cs = none := by
  have hall : cs.takeWhile (· ≠ '\x7d') = cs := by
    rw [List.takeWhile_eq_self_iff]
    intro c hc
    have hne : c ≠ '\x7d' := fun heq => h (heq ▸ hc)
    simpa using hne
  simp only [splitName, hall, List.drop_length]

/-! ## Scans -/

/-- A scan from left to right makes something of every reference and goes on behind it. Of all other characters
    it makes something one by one. -/
structure Scans {β : Type} (scan : List Char → List β) (plain : Char → List β)
    (named : List Char → List β) : Prop where
  nil : scan [] = []
  /-- A reference begins at the first character. -/
  reference : ∀ {cs name rest}, splitName cs = some (name, rest) →
    scan ('$' :: '\x7b' :: cs) = named name ++ scan rest
  /-- None begins there. -/
  cons : ∀ {c cs}, (∀ ds, c = '$' → cs = '\x7b' :: ds → splitName ds = none) →
    scan (c :: cs) = plain c ++ scan cs

/-- Filling is a scan that makes of every reference what it stands for. -/
theorem scans_fillChars (env : String → Option String) :
    Scans (fillChars env) (fun c => [c]) (reference env) := by
  refine ⟨by rw [fillChars], fun {cs name rest} h => ?_, fun {c cs} h => ?_⟩
  · rw [fillChars]
    split
    next _ _ hsplit =>
      rw [h] at hsplit
      cases hsplit
      rfl
    next hsplit =>
      rw [h] at hsplit
      cases hsplit
  · rw [fillChars.eq_def]
    split
    next heq => cases heq
    next ds heq =>
      cases heq
      split
      next _ _ hsplit =>
        rw [h ds rfl rfl] at hsplit
        cases hsplit
      next => rfl
    next heq =>
      cases heq
      rfl

/-- Listing the variables is a scan that makes nothing of other characters. -/
theorem scans_namesIn : Scans namesIn (fun _ => []) (fun name => [String.ofList name]) := by
  refine ⟨by rw [namesIn], fun {cs name rest} h => ?_, fun {c cs} h => ?_⟩
  · rw [namesIn]
    split
    next _ _ hsplit =>
      rw [h] at hsplit
      cases hsplit
      rfl
    next hsplit =>
      rw [h] at hsplit
      cases hsplit
  · rw [namesIn.eq_def]
    split
    next heq => cases heq
    next ds heq =>
      cases heq
      split
      next _ _ hsplit =>
        rw [h ds rfl rfl] at hsplit
        cases hsplit
      next => rfl
    next heq =>
      cases heq
      rfl

section

variable {β : Type} {scan : List Char → List β} {plain : Char → List β} {named : List Char → List β}

/-- What a scan makes of one piece and the closing brace behind it. -/
def onPiece (plain : Char → List β) (named : List Char → List β) (s : List Char) : List β :=
  match opening? s with
  | some (before, name) => before.flatMap plain ++ named name
  | none => (s ++ ['\x7d']).flatMap plain

/-- In front of a piece in which no reference begins at the first character. -/
theorem onPiece_cons {c : Char} {s : List Char} (h : ∀ d ds, c = '$' → s = '\x7b' :: d :: ds → False) :
    onPiece plain named (c :: s) = plain c ++ onPiece plain named s := by
  unfold onPiece
  rw [opening?]
  · cases opening? s with
    | none => rfl
    | some found => simp
  · exact h

/-- **One piece** is scanned by itself, and the scan goes on behind it. -/
theorem Scans.piece (hscan : Scans scan plain named) {s : List Char} (h : '\x7d' ∉ s) (cs : List Char) :
    scan (s ++ '\x7d' :: cs) = onPiece plain named s ++ scan cs := by
  fun_induction opening? s with
  | case1 =>
    rw [List.nil_append, hscan.cons fun _ hc => by cases hc]
    simp [onPiece, opening?]
  | case2 c name =>
    have hname : '\x7d' ∉ c :: name := by simp_all
    have hsplit := splitName_of_name (List.cons_ne_nil c name) hname cs
    exact hscan.reference hsplit
  | case3 c rest hother ih =>
    rw [List.cons_append, hscan.cons, ih fun hmem => h (List.mem_cons_of_mem _ hmem), onPiece_cons hother,
      List.append_assoc]
    -- What follows the opening is either the closing brace or a name.
    intro ds hc hds
    cases rest with
    | nil => cases hds
    | cons b rest =>
      rw [List.cons_append, List.cons.injEq] at hds
      obtain ⟨rfl, rfl⟩ := hds
      cases rest with
      | nil => exact splitName_of_brace cs
      | cons d rest => exact (hother d rest hc rfl).elim

/-- Behind the last closing brace there are no references. -/
theorem Scans.open (hscan : Scans scan plain named) {cs : List Char} (h : '\x7d' ∉ cs) :
    scan cs = cs.flatMap plain := by
  induction cs with
  | nil => exact hscan.nil
  | cons c cs ih =>
    have hrest : '\x7d' ∉ cs := fun hmem => h (List.mem_cons_of_mem _ hmem)
    rw [hscan.cons, ih hrest, List.flatMap_cons]
    rintro ds _ rfl
    exact splitName_of_open fun hmem => hrest (List.mem_cons_of_mem _ hmem)

/-- **A text** is scanned piece by piece. -/
theorem Scans.joined (hscan : Scans scan plain named) {pieces : List (List Char)} {rest : List Char}
    (hpieces : ∀ s ∈ pieces, '\x7d' ∉ s) (hrest : '\x7d' ∉ rest) :
    scan (Template.joined pieces rest) = pieces.flatMap (onPiece plain named) ++ rest.flatMap plain := by
  induction pieces with
  | nil => exact hscan.open hrest
  | cons s pieces ih =>
    have hs : '\x7d' ∉ s := hpieces s List.mem_cons_self
    calc
      scan (Template.joined (s :: pieces) rest) = scan (s ++ '\x7d' :: Template.joined pieces rest) := by
        simp [Template.joined]
      _ = onPiece plain named s ++ scan (Template.joined pieces rest) := hscan.piece hs _
      _ = (s :: pieces).flatMap (onPiece plain named) ++ rest.flatMap plain := by
        rw [ih fun s' hs' => hpieces s' (List.mem_cons_of_mem _ hs'), List.flatMap_cons, List.append_assoc]

end

/-! ## Filling -/

variable {env : String → Option String}

/-- A piece filled: from its first opening on it is a reference, and without one it stays as it is. -/
def fillPiece (env : String → Option String) (s : List Char) : List Char :=
  match opening? s with
  | some (before, name) => before ++ reference env name
  | none => s ++ ['\x7d']

/-- The variable that a piece refers to. -/
def nameOf? (s : List Char) : Option String := (opening? s).map fun (_, name) => String.ofList name

theorem onPiece_fillPiece (env : String → Option String) :
    onPiece (fun c => [c]) (reference env) = fillPiece env := by
  funext s
  unfold onPiece fillPiece
  rcases opening? s with _ | ⟨before, name⟩
  · exact List.flatMap_singleton' _
  · exact congrArg (· ++ reference env name) (List.flatMap_singleton' before)

theorem fillChars_joined {pieces : List (List Char)} {rest : List Char} (hpieces : ∀ s ∈ pieces, '\x7d' ∉ s)
    (hrest : '\x7d' ∉ rest) :
    fillChars env (joined pieces rest) = pieces.flatMap (fillPiece env) ++ rest := by
  rw [(scans_fillChars env).joined hpieces hrest, List.flatMap_singleton', onPiece_fillPiece]

theorem onPiece_nameOf? :
    onPiece (fun _ => []) (fun name => [String.ofList name]) = fun s => (nameOf? s).toList := by
  funext s
  unfold onPiece nameOf?
  rcases opening? s with _ | ⟨before, name⟩ <;> simp

theorem namesIn_joined {pieces : List (List Char)} {rest : List Char} (hpieces : ∀ s ∈ pieces, '\x7d' ∉ s)
    (hrest : '\x7d' ∉ rest) : namesIn (joined pieces rest) = pieces.filterMap nameOf? := by
  rw [scans_namesIn.joined hpieces hrest, onPiece_nameOf?, List.filterMap_eq_flatMap_toList]
  simp

theorem fillPiece_of_opensFirst {s before name : List Char} (h : OpensFirst s before name) :
    fillPiece env s = before ++ reference env name := by
  rw [fillPiece, opening?_eq_some.mpr h]

theorem fillPiece_of_not_opensAt {s : List Char} (h : ∀ before name, ¬OpensAt s before name) :
    fillPiece env s = s ++ ['\x7d'] := by
  rw [fillPiece, opening?_eq_none.mpr h]

/-- A piece depends on no variable but the one that it refers to. -/
theorem fillPiece_congr {env' : String → Option String} {s : List Char}
    (h : ∀ name, nameOf? s = some name → env' name = env name) : fillPiece env' s = fillPiece env s := by
  unfold fillPiece
  cases hs : opening? s with
  | none => rfl
  | some found =>
    have hname := h (String.ofList found.2) (by rw [nameOf?, hs]; rfl)
    dsimp only
    rw [reference, reference, hname]

/-- A piece whose variable is not set stays as it is. -/
theorem fillPiece_of_unset {s : List Char} (h : ∀ name, nameOf? s = some name → env name = none) :
    fillPiece env s = s ++ ['\x7d'] := by
  unfold fillPiece
  cases hs : opening? s with
  | none => rfl
  | some found =>
    have hname := h (String.ofList found.2) (by rw [nameOf?, hs]; rfl)
    obtain ⟨⟨htext, _⟩, _⟩ := opening?_eq_some.mp hs
    dsimp only
    rw [reference, hname]
    conv_rhs => rw [htext]
    simp

/-- No variable has the empty name. -/
theorem nameOf?_ne_empty (s : List Char) : nameOf? s ≠ some "" := by
  intro h
  obtain ⟨⟨before, name⟩, hopening, hname⟩ := Option.map_eq_some_iff.mp h
  obtain ⟨⟨_, hne⟩, _⟩ := opening?_eq_some.mp hopening
  exact hne (by simpa using congrArg String.toList hname)

/-- **A text that ends in a closing brace** is filled without regard to what follows it. -/
theorem fillChars_append (cs ds : List Char) :
    fillChars env (cs ++ '\x7d' :: ds) = fillChars env (cs ++ ['\x7d']) ++ fillChars env ds := by
  obtain ⟨hpieces, hrest, hcs⟩ := text_cut cs
  obtain ⟨hpieces', hrest', hds⟩ := text_cut ds
  have hmore : ∀ s ∈ (cut cs).1 ++ [(cut cs).2], '\x7d' ∉ s := by
    intro s hs
    rcases List.mem_append.mp hs with hs | hs
    · exact hpieces s hs
    · rwa [List.mem_singleton.mp hs]
  have hall : ∀ s ∈ (cut cs).1 ++ [(cut cs).2] ++ (cut ds).1, '\x7d' ∉ s := by
    intro s hs
    rcases List.mem_append.mp hs with hs | hs
    · exact hmore s hs
    · exact hpieces' s hs
  have hfirst : cs ++ ['\x7d'] = joined ((cut cs).1 ++ [(cut cs).2]) [] := by
    conv_lhs => rw [← hcs]
    simp [joined]
  have hboth : cs ++ '\x7d' :: ds = joined ((cut cs).1 ++ [(cut cs).2] ++ (cut ds).1) (cut ds).2 := by
    conv_lhs => rw [← hcs, ← hds]
    simp [joined]
  rw [hboth, hfirst, fillChars_joined hall hrest', fillChars_joined hmore (by simp)]
  conv_rhs => rw [← hds]
  rw [fillChars_joined hpieces' hrest']
  simp

/-! ## Filling a text -/

theorem toList_fill (env : String → Option String) (text : String) :
    (fill env text).toList = (cut text.toList).1.flatMap (fillPiece env) ++ (cut text.toList).2 := by
  obtain ⟨hpieces, hrest, htext⟩ := text_cut text.toList
  rw [fill, String.toList_ofList]
  conv_lhs => rw [← htext]
  exact fillChars_joined hpieces hrest

/-- The variables of a text are those of its pieces. -/
theorem names_eq (text : String) : names text = (cut text.toList).1.filterMap nameOf? := by
  obtain ⟨hpieces, hrest, htext⟩ := text_cut text.toList
  rw [names]
  conv_lhs => rw [← htext]
  exact namesIn_joined hpieces hrest

theorem mem_names {text name : String} :
    name ∈ names text ↔ ∃ s ∈ (cut text.toList).1, nameOf? s = some name := by
  rw [names_eq, List.mem_filterMap]

/-- A reference by itself. -/
theorem fill_reference {name : String} (hne : name ≠ "") (hbrace : '\x7d' ∉ name.toList) :
    fill env ("$\x7b" ++ name ++ "\x7d") = (env name).getD ("$\x7b" ++ name ++ "\x7d") := by
  have hname : name.toList ≠ [] := fun h => hne (String.toList_inj.mp h)
  have hfilled : fillChars env ('$' :: '\x7b' :: (name.toList ++ ['\x7d'])) =
      reference env name.toList ++ fillChars env [] :=
    (scans_fillChars env).reference (splitName_of_name hname hbrace [])
  have htoList : ("$\x7b" ++ name ++ "\x7d").toList = '$' :: '\x7b' :: (name.toList ++ ['\x7d']) := by
    simp
  rw [fill, htoList, hfilled, (scans_fillChars env).nil, List.append_nil, reference, String.ofList_toList]
  cases env name with
  | some value => exact String.ofList_toList
  | none =>
    refine String.toList_inj.mp ?_
    rw [String.toList_ofList]
    exact htoList.symm

/-- Variables that a text does not refer to have no part in it. -/
theorem fill_congr {env' : String → Option String} {text : String}
    (h : ∀ name ∈ names text, env' name = env name) : fill env' text = fill env text := by
  have hpieces : (cut text.toList).1.flatMap (fillPiece env') = (cut text.toList).1.flatMap (fillPiece env) :=
    List.flatMap_congr fun s hs => fillPiece_congr fun name hname => h name (mem_names.mpr ⟨s, hs, hname⟩)
  refine String.toList_inj.mp ?_
  rw [toList_fill, toList_fill, hpieces]

/-- A text stays as it is if none of its variables is set. -/
theorem fill_of_unset {text : String} (h : ∀ name ∈ names text, env name = none) : fill env text = text := by
  have hpieces : (cut text.toList).1.flatMap (fillPiece env) = (cut text.toList).1.flatMap (· ++ ['\x7d']) :=
    List.flatMap_congr fun s hs => fillPiece_of_unset fun name hname => h name (mem_names.mpr ⟨s, hs, hname⟩)
  refine String.toList_inj.mp ?_
  rw [toList_fill, hpieces]
  exact (text_cut text.toList).2.2

/-- What follows a closing brace is filled by itself. -/
theorem fill_append {text : String} (h : text.toList.getLast? = some '\x7d') (more : String) :
    fill env (text ++ more) = fill env text ++ fill env more := by
  obtain ⟨cs, hcs⟩ := List.getLast?_eq_some_iff.mp h
  rw [fill, fill, fill, String.toList_append, hcs, List.append_assoc, List.singleton_append, fillChars_append,
    String.ofList_append]

/-- **A text is filled piece by piece.** Cut it after every closing brace.
    - A piece with an opening in it becomes what stands before the first one and the value of the variable that
      is named by all that stands behind it, or the reference as it was if the variable is not set. Every other
      piece and the rest stay as they are. So no value is looked at again.
    - The variables that the text refers to are those of its pieces; none of them has the empty name, all other
      names without a closing brace are possible, and no other variable has a part in the filled text.
    - If none of them is set, the text stays as it is.
    - A text that ends in a closing brace is filled without regard to what follows it. -/
theorem fill_pieces (env : String → Option String) (text : String) :
    let pieces := (cut text.toList).1
    let rest := (cut text.toList).2
    ((∀ s ∈ pieces, '\x7d' ∉ s) ∧ '\x7d' ∉ rest ∧ text.toList = joined pieces rest) ∧
    (fill env text).toList = pieces.flatMap (fillPiece env) ++ rest ∧
    (∀ s ∈ pieces,
      (∀ before name, OpensFirst s before name → fillPiece env s = before ++ reference env name) ∧
      ((∀ before name, ¬OpensAt s before name) → fillPiece env s = s ++ ['\x7d'])) ∧
    names text = pieces.filterMap nameOf? ∧ "" ∉ names text ∧
    (∀ name, name ≠ "" → '\x7d' ∉ name.toList →
      fill env ("$\x7b" ++ name ++ "\x7d") = (env name).getD ("$\x7b" ++ name ++ "\x7d")) ∧
    (∀ env', (∀ name ∈ names text, env' name = env name) → fill env' text = fill env text) ∧
    ((∀ name ∈ names text, env name = none) → fill env text = text) ∧
    (text.toList.getLast? = some '\x7d' → ∀ more, fill env (text ++ more) = fill env text ++ fill env more) := by
  intro pieces rest
  obtain ⟨hpieces, hrest, htext⟩ := text_cut text.toList
  refine ⟨⟨hpieces, hrest, htext.symm⟩, toList_fill env text,
    fun s _ => ⟨fun _ _ => fillPiece_of_opensFirst, fillPiece_of_not_opensAt⟩, names_eq text, fun hempty => ?_,
    fun _ => fill_reference, fun _ => fill_congr, fill_of_unset, fill_append⟩
  obtain ⟨s, _, hs⟩ := mem_names.mp hempty
  exact nameOf?_ne_empty s hs

/-- Two variables are set: one has an opening in its name, the other one holds a reference to itself. -/
def twoSet (name : String) : Option String :=
  if name = "x$\x7bY" then some "1\x7d" else if name = "Z" then some "$\x7bZ\x7d" else none

/-- A reference in a reference, one without a name, a brace by itself, and a reference behind a new line. -/
def tangled : String := "a$\x7bx$\x7bY\x7db$\x7b\x7dc\n\x7d$\x7bZ\x7d"

/-- The outer reference counts, up to the first closing brace, and no value is looked at again. -/
theorem fill_pieces_tangled :
    (fill twoSet tangled).toList = "a1\x7db$\x7b\x7dc\n\x7d$\x7bZ\x7d".toList ∧
      names tangled = ["x$\x7bY", "Z"] ∧ fill (fun _ => none) tangled = tangled ∧
      fill twoSet (tangled ++ "$\x7bd") = fill twoSet tangled ++ fill twoSet "$\x7bd" ∧
      fill twoSet ("$\x7b" ++ "x$\x7bY" ++ "\x7d") = "1\x7d" ∧
      fillPiece twoSet "a$\x7bx$\x7bY".toList = "a".toList ++ reference twoSet "x$\x7bY".toList := by
  obtain ⟨_, hfill, hpiece, hnames, _, hname, _, _, happend⟩ := fill_pieces twoSet tangled
  obtain ⟨_, _, _, _, _, _, _, hunset, _⟩ := fill_pieces (fun _ => none) tangled
  have hfilled : (cut tangled.toList).1.flatMap (fillPiece twoSet) ++ (cut tangled.toList).2 =
      "a1\x7db$\x7b\x7dc\n\x7d$\x7bZ\x7d".toList := by
    decide +kernel
  have hlisted : (cut tangled.toList).1.filterMap nameOf? = ["x$\x7bY", "Z"] := by decide +kernel
  have hlast : tangled.toList.getLast? = some '\x7d' := by decide +kernel
  have hmember : "a$\x7bx$\x7bY".toList ∈ (cut tangled.toList).1 := by decide +kernel
  have hfirst : OpensFirst "a$\x7bx$\x7bY".toList "a".toList "x$\x7bY".toList :=
    opening?_eq_some.mp (by decide +kernel)
  refine ⟨hfill.trans hfilled, hnames.trans hlisted, hunset fun _ _ => rfl, happend hlast _, ?_,
    (hpiece _ hmember).1 _ _ hfirst⟩
  rw [hname "x$\x7bY" (by decide) (by decide)]
  rfl

end Kanban.Template
