import Mathlib.Data.List.Basic
import Mathlib.Data.List.Find
import Mathlib.Data.List.TakeWhile
import TableTalk.File.Snapshot
import TableTalk.Settings.Expansion

/-!
# Readings of texts with variables

A text has exactly one reading as characters that stand for themselves and names of variables.
Expanding it puts the values of all names in their places, or gives the leftmost name that has
no value; nothing is asked of the surroundings but the values of these names.
-/

namespace TableTalk.Settings

open TableTalk.File

set_option autoImplicit false

/-- A part of a text, told by the way in which it is written. -/
inductive Part where
  | plain (c : Char)
  /-- A dollar sign without a name. -/
  | dollar
  | braced (name : List Char)
  /-- A name whose closing brace is missing. -/
  | unclosed (name : List Char)
  | bare (name : List Char)
  deriving Repr, DecidableEq

def Part.written : Part → List Char
  | plain c => [c]
  | dollar => ['$']
  | braced name => '$' :: '{' :: (name ++ ['}'])
  | unclosed name => '$' :: '{' :: name
  | bare name => '$' :: name

def Part.name? : Part → Option String
  | plain _ | dollar => none
  | braced name | unclosed name | bare name => some (String.ofList name)

/-- What stands in the place of a part. Values are not read again. -/
def Part.filled (value? : String → Option String) : Part → List Char
  | plain c => [c]
  | dollar => ['$']
  | braced name | unclosed name | bare name =>
      ((value? (String.ofList name)).getD "").toList

/-- How a text is read from left to right. -/
inductive Reading : List Char → List Part → Prop where
  | done : Reading [] []
  | plain {c : Char} {rest : List Char} {parts : List Part} (ordinary : c ≠ '$')
      (later : Reading rest parts) : Reading (c :: rest) (.plain c :: parts)
  /-- A name between braces reaches to the first closing one. -/
  | braced {name rest after : List Char} {parts : List Part} (cut : after = name ++ '}' :: rest)
      (first : '}' ∉ name) (later : Reading rest parts) :
      Reading ('$' :: '{' :: after) (.braced name :: parts)
  | unclosed {name : List Char} (unending : '}' ∉ name) :
      Reading ('$' :: '{' :: name) [.unclosed name]
  /-- A name without braces is not empty and as long as possible. -/
  | bare {name rest after : List Char} {parts : List Part} (cut : after = name ++ rest)
      (present : name ≠ []) (word : ∀ c ∈ name, isNameChar c)
      (longest : ∀ c ∈ rest.head?, ¬isNameChar c) (later : Reading rest parts) :
      Reading ('$' :: after) (.bare name :: parts)
  | dollar {rest : List Char} {parts : List Part}
      (unnamed : ∀ c ∈ rest.head?, c ≠ '{' ∧ ¬isNameChar c) (later : Reading rest parts) :
      Reading ('$' :: rest) (.dollar :: parts)

/-! ## Names and what follows them -/

theorem brace_in_no_name : ¬isNameChar '{' := by decide +kernel

theorem sign_in_no_name : ¬isNameChar '$' := by decide +kernel

theorem span_of_cut {inside : Char → Bool} {name rest : List Char}
    (all : ∀ c ∈ name, inside c) (ends : ∀ c ∈ rest.head?, ¬inside c) :
    (name ++ rest).takeWhile inside = name ∧ (name ++ rest).dropWhile inside = rest := by
  rw [List.takeWhile_append_of_pos all, List.dropWhile_append_of_pos all]
  cases rest with
  | nil => simp
  | cons c rest =>
      have outside : ¬inside c := ends c rfl
      simp [outside]

theorem cut_of_span (inside : Char → Bool) (text : List Char) :
    text = text.takeWhile inside ++ text.dropWhile inside ∧
      (∀ c ∈ text.takeWhile inside, inside c) ∧
      ∀ c ∈ (text.dropWhile inside).head?, ¬inside c := by
  refine ⟨List.takeWhile_append_dropWhile.symm, fun c member => List.mem_takeWhile_imp member, ?_⟩
  intro c first
  have outside := List.head?_dropWhile_not inside text
  rw [first] at outside
  simpa using outside

theorem cut_unique {inside : Char → Bool} {name other rest otherRest : List Char}
    (same : name ++ rest = other ++ otherRest) (all : ∀ c ∈ name, inside c)
    (ends : ∀ c ∈ rest.head?, ¬inside c) (otherAll : ∀ c ∈ other, inside c)
    (otherEnds : ∀ c ∈ otherRest.head?, ¬inside c) : name = other ∧ rest = otherRest := by
  obtain ⟨taken, dropped⟩ := span_of_cut all ends
  obtain ⟨otherTaken, otherDropped⟩ := span_of_cut otherAll otherEnds
  rw [same] at taken dropped
  exact ⟨taken.symm.trans otherTaken, dropped.symm.trans otherDropped⟩

theorem before_brace {name : List Char} (absent : '}' ∉ name) :
    ∀ c ∈ name, decide (c ≠ '}') = true := by
  intro c member
  simpa using fun same : c = '}' => absent (same ▸ member)

theorem word_opens {name rest after : List Char} (cut : after = name ++ rest)
    (present : name ≠ []) (word : ∀ c ∈ name, isNameChar c) :
    ∃ c, after.head? = some c ∧ isNameChar c := by
  obtain ⟨c, later, rfl⟩ := List.exists_cons_of_ne_nil present
  rw [cut]
  exact ⟨c, rfl, word c List.mem_cons_self⟩

theorem word_unbraced {name rest after : List Char} (cut : after = name ++ rest)
    (present : name ≠ []) (word : ∀ c ∈ name, isNameChar c) : ∀ c ∈ after.head?, c ≠ '{' := by
  obtain ⟨first, opens, named⟩ := word_opens cut present word
  intro c found brace
  rw [opens] at found
  cases found
  rw [brace] at named
  exact brace_in_no_name named

/-- A text has at most one reading. -/
theorem reading_unique {text : List Char} {parts others : List Part} (reading : Reading text parts)
    (other : Reading text others) : parts = others := by
  -- What follows a dollar sign rules out all ways to read on but one.
  induction reading generalizing others with
  | done =>
      cases other with
      | done => rfl
  | plain ordinary _ ih =>
      cases other with
      | plain _ later => rw [ih later]
      | _ => exact absurd rfl ordinary
  | braced cut first _ ih =>
      cases other with
      | plain ordinary _ => exact absurd rfl ordinary
      | braced otherCut otherFirst later =>
          obtain ⟨rfl, rest⟩ := cut_unique (cut.symm.trans otherCut) (before_brace first) (by simp)
            (before_brace otherFirst) (by simp)
          cases rest
          rw [ih later]
      | unclosed unending =>
          rw [cut] at unending
          simp at unending
      | bare otherCut present word _ _ =>
          exact absurd rfl (word_unbraced otherCut present word '{' rfl)
      | dollar unnamed _ => exact absurd rfl (unnamed '{' rfl).1
  | unclosed unending =>
      cases other with
      | plain ordinary _ => exact absurd rfl ordinary
      | braced cut _ _ =>
          rw [cut] at unending
          simp at unending
      | unclosed _ => rfl
      | bare cut present word _ _ => exact absurd rfl (word_unbraced cut present word '{' rfl)
      | dollar unnamed _ => exact absurd rfl (unnamed '{' rfl).1
  | bare cut present word longest _ ih =>
      cases other with
      | plain ordinary _ => exact absurd rfl ordinary
      | braced _ _ _ => exact absurd rfl (word_unbraced cut present word '{' rfl)
      | unclosed _ => exact absurd rfl (word_unbraced cut present word '{' rfl)
      | bare otherCut otherPresent otherWord otherLongest later =>
          obtain ⟨rfl, rfl⟩ := cut_unique (cut.symm.trans otherCut) word longest otherWord
            otherLongest
          rw [ih later]
      | dollar unnamed _ =>
          obtain ⟨c, first, named⟩ := word_opens cut present word
          exact absurd named (unnamed c first).2
  | dollar unnamed _ ih =>
      cases other with
      | plain ordinary _ => exact absurd rfl ordinary
      | braced _ _ _ => exact absurd rfl (unnamed '{' rfl).1
      | unclosed _ => exact absurd rfl (unnamed '{' rfl).1
      | bare cut present word _ _ =>
          obtain ⟨c, first, named⟩ := word_opens cut present word
          exact absurd named (unnamed c first).2
      | dollar _ later => rw [ih later]

/-! ## The reading that is made -/

def Part.piece : Part → Piece
  | plain c => .plain c
  | dollar => .plain '$'
  | braced name | unclosed name | bare name => .named name

theorem piece_name (part : Part) : part.piece.name? = part.name? := by
  cases part with
  | _ => rfl

theorem pieces_plain {c : Char} (ordinary : c ≠ '$') (rest : List Char) :
    pieces (c :: rest) = .plain c :: pieces rest := by
  rw [pieces]
  · exact fun _ sign _ => ordinary sign
  · exact ordinary

theorem pieces_braced (after : List Char) :
    pieces ('$' :: '{' :: after) =
      .named (after.takeWhile (· ≠ '}')) :: pieces (after.dropWhile (· ≠ '}')).tail := by
  rw [pieces]

theorem pieces_unbraced {after : List Char} (unbraced : ∀ c ∈ after.head?, c ≠ '{') :
    pieces ('$' :: after) =
      if (after.takeWhile isNameChar).isEmpty then .plain '$' :: pieces after
      else .named (after.takeWhile isNameChar) :: pieces (after.dropWhile isNameChar) := by
  rw [pieces]
  rintro rest rfl
  exact unbraced '{' rfl rfl

theorem reading_pieces {text : List Char} {parts : List Part} (reading : Reading text parts) :
    pieces text = parts.map Part.piece := by
  induction reading with
  | done => rw [pieces, List.map_nil]
  | plain ordinary _ ih => rw [pieces_plain ordinary, ih, List.map_cons, Part.piece]
  | @braced name rest after parts cut first _ ih =>
      have ends : ∀ c ∈ ('}' :: rest).head?, ¬decide (c ≠ '}') = true := by simp
      obtain ⟨taken, dropped⟩ := span_of_cut (before_brace first) ends
      rw [pieces_braced, cut, taken, dropped, List.tail_cons, ih, List.map_cons, Part.piece]
  | @unclosed name unending =>
      have ends : ∀ c ∈ ([] : List Char).head?, ¬decide (c ≠ '}') = true := by simp
      obtain ⟨taken, dropped⟩ := span_of_cut (before_brace unending) ends
      rw [List.append_nil] at taken dropped
      rw [pieces_braced, taken, dropped, List.tail_nil, pieces, List.map_cons, List.map_nil,
        Part.piece]
  | @bare name rest after parts cut present word longest _ ih =>
      obtain ⟨taken, dropped⟩ := span_of_cut word longest
      rw [pieces_unbraced (word_unbraced cut present word), cut, taken, dropped, ih,
        if_neg (by simpa using present), List.map_cons, Part.piece]
  | @dollar rest parts unnamed _ ih =>
      have nameless : ∀ c ∈ ([] : List Char), isNameChar c := by simp
      obtain ⟨taken, _⟩ := span_of_cut nameless fun c first => (unnamed c first).2
      rw [List.nil_append] at taken
      rw [pieces_unbraced fun c first => (unnamed c first).1, taken, ih, List.isEmpty_nil,
        if_pos rfl, List.map_cons, Part.piece]

theorem reading_exists (text : List Char) : ∃ parts, Reading text parts := by
  fun_induction pieces text with
  | case1 => exact ⟨[], .done⟩
  | case2 after ih =>
      obtain ⟨parts, later⟩ := ih
      obtain ⟨cut, inside, ends⟩ := cut_of_span (· ≠ '}') after
      have unclosed : '}' ∉ after.takeWhile (· ≠ '}') := by
        intro member
        simpa using inside _ member
      cases dropped : after.dropWhile (· ≠ '}') with
      | nil =>
          rw [dropped, List.append_nil] at cut
          rw [← cut] at unclosed
          exact ⟨_, .unclosed unclosed⟩
      | cons c rest =>
          have brace : c = '}' := by simpa using ends c (by rw [dropped]; rfl)
          rw [dropped, brace] at cut
          rw [dropped] at later
          exact ⟨_, .braced cut unclosed later⟩
  | case3 after unbraced name nameless ih =>
      obtain ⟨parts, later⟩ := ih
      obtain ⟨cut, _, ends⟩ := cut_of_span isNameChar after
      have none : after.takeWhile isNameChar = [] := List.isEmpty_iff.mp nameless
      rw [none, List.nil_append] at cut
      rw [← cut] at ends
      -- A brace after the sign would have been taken by the cases before.
      refine ⟨_, .dollar (fun c first => ⟨?_, ends c first⟩) later⟩
      intro brace
      obtain ⟨rest, opened⟩ := List.head?_eq_some_iff.mp first
      exact unbraced rest (brace ▸ opened)
  | case4 after unbraced name named ih =>
      obtain ⟨parts, later⟩ := ih
      obtain ⟨cut, word, ends⟩ := cut_of_span isNameChar after
      have present : after.takeWhile isNameChar ≠ [] := mt List.isEmpty_iff.mpr named
      exact ⟨_, .bare cut present word ends later⟩
  | case5 c rest sign ordinary ih =>
      obtain ⟨parts, later⟩ := ih
      exact ⟨_, .plain ordinary later⟩

theorem reading_written {text : List Char} {parts : List Part} (reading : Reading text parts) :
    parts.flatMap Part.written = text := by
  induction reading with
  | done => rfl
  | plain _ _ ih => simp [Part.written, ih]
  | braced cut _ _ ih => simp [Part.written, ih, cut]
  | unclosed _ => simp [Part.written]
  | bare cut _ _ _ _ ih => simp [Part.written, ih, cut]
  | dollar _ _ ih => simp [Part.written, ih]

/-! ## Values in the place of names -/

theorem part_cases (value? : String → Option String) (part : Part) :
    (∃ c, part.piece = .plain c ∧ part.name? = none ∧ part.filled value? = [c]) ∨
      ∃ name, part.piece = .named name ∧ part.name? = some (String.ofList name) ∧
        part.filled value? = ((value? (String.ofList name)).getD "").toList := by
  cases part with
  | plain c => exact .inl ⟨c, rfl, rfl, rfl⟩
  | dollar => exact .inl ⟨'$', rfl, rfl, rfl⟩
  | braced name | unclosed name | bare name => exact .inr ⟨name, rfl, rfl, rfl⟩

/-- Filling fails with the first name that has no value, or puts in all values. -/
theorem fill_eq (value? : String → Option String) (parts : List Part) :
    fill value? (parts.map Part.piece) =
      match (parts.filterMap Part.name?).find? fun name => (value? name).isNone with
      | some name => .error name
      | none => .ok (parts.flatMap (Part.filled value?)) := by
  induction parts with
  | nil => rfl
  | cons part parts ih =>
      rw [List.map_cons, List.flatMap_cons]
      rcases part_cases value? part with ⟨c, piece, unnamed, filled⟩ | ⟨name, piece, named, filled⟩
      · rw [List.filterMap_cons_none unnamed, piece, filled, fill, ih]
        split
        · rfl
        · rfl
      · rw [List.filterMap_cons_some named, piece, filled, fill]
        cases known : value? (String.ofList name) with
        | none => simp [known]
        | some value =>
            rw [List.find?_cons_of_neg (by simp [known]), ih]
            dsimp only
            split
            · rfl
            · rfl

theorem filled_congr {value? other? : String → Option String} {part : Part}
    (agree : ∀ name ∈ part.name?, other? name = value? name) :
    part.filled other? = part.filled value? := by
  cases part with
  | plain c => rfl
  | dollar => rfl
  | braced name | unclosed name | bare name => rw [Part.filled, Part.filled, agree _ rfl]

theorem expand_of_reading {text : String} {parts : List Part} (reading : Reading text.toList parts)
    (value? : String → Option String) :
    expand value? text =
      match (parts.filterMap Part.name?).find? fun name => (value? name).isNone with
      | some name => .error name
      | none => .ok (String.ofList (parts.flatMap (Part.filled value?))) := by
  rw [expand, reading_pieces reading, fill_eq]
  split
  · rfl
  · rfl

theorem expand_of_reading_congr {text : String} {parts : List Part}
    (reading : Reading text.toList parts) {value? other? : String → Option String}
    (agree : ∀ name ∈ parts.filterMap Part.name?, other? name = value? name) :
    expand other? text = expand value? text := by
  have missing : ((parts.filterMap Part.name?).find? fun name => (other? name).isNone) =
      (parts.filterMap Part.name?).find? fun name => (value? name).isNone :=
    List.find?_congr fun name member => by rw [agree name member]
  have filled : parts.flatMap (Part.filled other?) = parts.flatMap (Part.filled value?) := by
    apply List.flatMap_congr
    intro part member
    exact filled_congr fun name named => agree name (List.mem_filterMap.mpr ⟨part, member, named⟩)
  rw [expand_of_reading reading, expand_of_reading reading, missing, filled]

/-! ## Surroundings held in memory -/

theorem values_run (snapshot : Snapshot) (names : List String) :
    (names.mapM fun name => do return (name, ← Surroundings.valueOf? name) :
      InSnapshot (List (String × Option String))).run snapshot =
        names.map fun name => (name, snapshot.valueOf? name) := by
  induction names with
  | nil => rfl
  | cons name names ih =>
      rw [List.mapM_cons, List.map_cons, ← ih]
      rfl

/-- Expanding in surroundings held in memory is expanding with the values found there. -/
theorem expand_here_run (snapshot : Snapshot) (text : String) :
    (expandHere text : InSnapshot (Except String String)).run snapshot =
      expand snapshot.valueOf? text := by
  obtain ⟨parts, reading⟩ := reading_exists text.toList
  have names : (pieces text.toList).filterMap Piece.name? = parts.filterMap Part.name? := by
    rw [reading_pieces reading, List.filterMap_map]
    exact List.filterMap_congr fun part _ => piece_name part
  have run : (expandHere text : InSnapshot (Except String String)).run snapshot =
      expand (fun name => ((((pieces text.toList).filterMap Piece.name?).map fun name =>
        (name, snapshot.valueOf? name)).lookup name).join) text := by
    rw [← values_run]
    rfl
  rw [run, names]
  refine expand_of_reading_congr reading fun name listed => ?_
  rw [List.lookup_graph snapshot.valueOf? listed, Option.join_some]

/-- The one reading of a text decides what it expands to: the leftmost name without a value is
the error; if all names have values, these are put in, and nothing else changes. Variables that
the text does not name have no part in it. -/
theorem expansion_follows_reading (text : String) :
    ∃ parts, Reading text.toList parts ∧ (∀ others, Reading text.toList others → others = parts) ∧
      parts.flatMap Part.written = text.toList ∧
      ∀ value? : String → Option String,
        (expand value? text =
          match (parts.filterMap Part.name?).find? fun name => (value? name).isNone with
          | some name => .error name
          | none => .ok (String.ofList (parts.flatMap (Part.filled value?)))) ∧
        ∀ other? : String → Option String,
          (∀ name ∈ parts.filterMap Part.name?, other? name = value? name) →
            expand other? text = expand value? text := by
  obtain ⟨parts, reading⟩ := reading_exists text.toList
  exact ⟨parts, reading, fun others other => reading_unique other reading,
    reading_written reading, fun value? => ⟨expand_of_reading reading value?, fun other? agree =>
      expand_of_reading_congr reading agree⟩⟩

/-- A sign before a sign, a name that ends at a sign, a name between braces, and braces that are
left open. -/
def mixedParts : List Part :=
  [.dollar, .bare ['A'], .braced ['B'], .plain 'c', .dollar, .plain ' ', .unclosed ['A']]

def mixedText : String := String.ofList (mixedParts.flatMap Part.written)

theorem mixed_text_reading : Reading mixedText.toList mixedParts := by
  rw [mixedText, String.toList_ofList]
  refine .dollar ?_ (.bare rfl (by decide) ?_ ?_ (.braced rfl (by decide)
    (.plain (by decide) (.dollar ?_ (.plain (by decide) (.unclosed (by decide)))))))
  · simp [Part.written, sign_in_no_name]
  · exact List.forall_mem_singleton.mpr (by decide +kernel)
  · simp [Part.written, sign_in_no_name]
  · have blank : ¬isNameChar ' ' := by decide +kernel
    simp [Part.written, blank]

def mixedValue? (other : Option String) (name : String) : Option String :=
  if name = "A" then some "$B" else if name = "B" then some "x" else other

/-- A variable that is not named does not change what a text expands to. -/
theorem mixed_text_expanded :
    expand (mixedValue? none) mixedText = .ok "$$Bxc$ $B" ∧
      expand (mixedValue? (some "")) mixedText = .ok "$$Bxc$ $B" := by
  obtain ⟨parts, _, unique, _, expands⟩ := expansion_follows_reading mixedText
  obtain rfl : mixedParts = parts := unique mixedParts mixed_text_reading
  obtain ⟨expanded, unchanged⟩ := expands (mixedValue? none)
  have value : expand (mixedValue? none) mixedText = .ok "$$Bxc$ $B" := expanded.trans rfl
  refine ⟨value, ?_⟩
  rw [← value]
  apply unchanged
  decide

end TableTalk.Settings
