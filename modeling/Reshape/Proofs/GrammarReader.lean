import Mathlib.Data.List.DropRight
import Reshape.Proofs.ValueGrammar

/-!
# Readers of grammars

A dialect follows a grammar when it reads the same scalars and names and makes the same
choices.  Its reader then takes exactly the texts of the grammar.  It is sound by induction
on its steps, where values, items and fields are taken together, and complete by induction
on derivations, where two steps for each character are always enough.

Main results:

- Structure `Dialect.Follows`: what makes a dialect follow a grammar.
- Theorem `Dialect.Follows.readsSoundly`: what is read stands for what is returned.
- Theorem `Dialect.Follows.reads`: what stands for something is read.
- Theorem `Dialect.Follows.read?_eq_some_iff`: the texts that are read, and their values.
-/

namespace Reshape

/-! ## Dialects that follow a grammar -/

/-- The characters that hold containers together. -/
def marks : List Char :=
  ['[', ']', '{', '}', ',', ':']

/-- What closes a part is a mark. -/
theorem mem_marks_of_closes : ∀ c ∈ [']', '}', ','], c ∈ marks :=
  List.all_iff_forall_prop.mp (by decide)

/-- The first character of a scalar or a name. -/
def Grammar.Starts (g : Grammar) (c : Char) : Prop :=
  g.isBlank c = false ∧ c ∉ marks

/-- What can stand behind a value. -/
def Grammar.Delimits (g : Grammar) (cs : List Char) : Prop :=
  ∀ c ∈ cs.head?, g.isBlank c ∨ c ∈ [']', '}', ',']

/-- A dialect reads the scalars and names of a grammar and makes the same choices. -/
structure Dialect.Follows (d : Dialect) (g : Grammar) : Prop where
  isBlank_eq : d.isBlank = g.isBlank
  allowsTrailingComma_eq : d.allowsTrailingComma = g.allowsTrailingComma
  isBlank_mark : ∀ c ∈ marks, g.isBlank c = false
  head_scalar {text : List Char} {v : Json} (h : g.IsScalar text v) :
    ∃ c cs, text = c :: cs ∧ g.Starts c
  head_name {text : List Char} {name : String} (h : g.IsName text name) :
    ∃ c cs, text = c :: cs ∧ g.Starts c
  sound_scalar {cs rest : List Char} {v : Json} (h : d.readScalar? cs = some (v, rest)) :
    ∃ text, g.IsScalar text v ∧ cs = text ++ rest
  sound_name {cs rest : List Char} {name : String} (h : d.readName? cs = some (name, rest)) :
    ∃ text, g.IsName text name ∧ cs = text ++ rest
  complete_scalar {text : List Char} {v : Json} (h : g.IsScalar text v) {rest : List Char}
    (hrest : g.Delimits rest) : d.readScalar? (text ++ rest) = some (v, rest)
  complete_name {text : List Char} {name : String} (h : g.IsName text name) (rest : List Char) :
    d.readName? (text ++ rest) = some (name, rest)

namespace Dialect

variable {d : Dialect} {g : Grammar}

/-! ### Blanks -/

/-- Blanks are skipped only once. -/
theorem skipBlanks_skipBlanks (d : Dialect) (cs : List Char) :
    d.skipBlanks (d.skipBlanks cs) = d.skipBlanks cs :=
  List.dropWhile_idempotent d.isBlank cs

/-- Blanks in front of a value do not count. -/
theorem readValue?_skipBlanks (d : Dialect) (steps : Nat) (depth : Option Nat) (cs : List Char) :
    d.readValue? steps depth (d.skipBlanks cs) = d.readValue? steps depth cs := by
  cases steps with
  | zero => rfl
  | succ steps => rw [readValue?, readValue?, skipBlanks_skipBlanks]

/-- Blanks in front of items do not count. -/
theorem readItems?_skipBlanks (d : Dialect) (steps : Nat) (depth : Option Nat) (cs : List Char) :
    d.readItems? steps depth (d.skipBlanks cs) = d.readItems? steps depth cs := by
  cases steps with
  | zero => rfl
  | succ steps => rw [readItems?, readItems?, readValue?_skipBlanks]

/-- Blanks in front of fields do not count. -/
theorem readFields?_skipBlanks (d : Dialect) (steps : Nat) (depth : Option Nat)
    (cs : List Char) :
    d.readFields? steps depth (d.skipBlanks cs) = d.readFields? steps depth cs := by
  cases steps with
  | zero => rfl
  | succ steps => rw [readFields?, readFields?, skipBlanks_skipBlanks]

namespace Follows

/-- What is skipped are blanks. -/
theorem exists_blanks (hd : d.Follows g) (cs : List Char) :
    ∃ blanks, g.Blanks blanks ∧ cs = blanks ++ d.skipBlanks cs := by
  refine ⟨cs.takeWhile d.isBlank, fun c hc => ?_, List.takeWhile_append_dropWhile.symm⟩
  rw [← hd.isBlank_eq]
  exact List.mem_takeWhile_imp hc

/-- Blanks are skipped. -/
theorem skipBlanks_append (hd : d.Follows g) {blanks : List Char} (h : g.Blanks blanks)
    (cs : List Char) : d.skipBlanks (blanks ++ cs) = d.skipBlanks cs := by
  apply List.dropWhile_append_of_pos
  rwa [hd.isBlank_eq]

/-- Nothing is skipped in front of a character that is no blank. -/
theorem skipBlanks_cons (hd : d.Follows g) {c : Char} (hc : g.isBlank c = false)
    (cs : List Char) : d.skipBlanks (c :: cs) = c :: cs := by
  rw [← hd.isBlank_eq] at hc
  simp [skipBlanks, hc]

/-- Blanks are skipped up to a mark. -/
theorem skipBlanks_mark (hd : d.Follows g) {blanks : List Char} (h : g.Blanks blanks) {c : Char}
    (hc : c ∈ marks) (cs : List Char) : d.skipBlanks (blanks ++ c :: cs) = c :: cs := by
  rw [hd.skipBlanks_append h, hd.skipBlanks_cons (hd.isBlank_mark c hc)]

/-! ### Soundness -/

/-- What a reader takes within a number of steps stands for what it returns. -/
structure ReadsSoundly (d : Dialect) (g : Grammar) (steps : Nat) : Prop where
  value {depth : Option Nat} {cs rest : List Char} {v : Json}
    (h : d.readValue? steps depth cs = some (v, rest)) :
    ∃ before text, g.Blanks before ∧ g.Derives depth (.value v) text ∧ cs = before ++ (text ++ rest)
  items {depth : Option Nat} {cs rest : List Char} {items : List Json}
    (h : d.readItems? steps depth cs = some (items, rest)) :
    ∃ text, g.Derives depth (.items items) text ∧ cs = text ++ ']' :: rest
  fields {depth : Option Nat} {cs rest : List Char} {fields : List (String × Json)}
    (h : d.readFields? steps depth cs = some (fields, rest)) :
    ∃ text, g.Derives depth (.fields fields) text ∧ cs = text ++ '}' :: rest

/-- A value that is read, and the blanks behind it. -/
theorem ReadsSoundly.slot (hd : d.Follows g) {steps : Nat} (hsteps : ReadsSoundly d g steps)
    {depth : Option Nat} {cs rest : List Char} {v : Json}
    (h : d.readValue? steps depth cs = some (v, rest)) :
    ∃ text, g.Derives depth (.slot v) text ∧ cs = text ++ d.skipBlanks rest := by
  rcases hsteps.value h with ⟨before, text, hbefore, hderives, rfl⟩
  rcases hd.exists_blanks rest with ⟨after, hafter, hrest⟩
  refine ⟨before ++ (text ++ after), .slot hbefore hderives hafter, ?_⟩
  nth_rewrite 1 [hrest]
  simp

/-- A value is read soundly when its parts are. -/
theorem readValue?_sound (hd : d.Follows g) {steps : Nat} (hsteps : ReadsSoundly d g steps)
    {depth : Option Nat} {cs rest : List Char} {v : Json}
    (h : d.readValue? (steps + 1) depth cs = some (v, rest)) :
    ∃ before text, g.Blanks before ∧ g.Derives depth (.value v) text ∧
      cs = before ++ (text ++ rest) := by
  rcases hd.exists_blanks cs with ⟨before, hbefore, hcs⟩
  rw [readValue?] at h
  split at h
  · rename_i tail htail
    rcases Option.bind_eq_some_iff.mp h with ⟨inner, hinner, h⟩
    rcases hd.exists_blanks tail with ⟨blanks, hblanks, hinside⟩
    split at h
    · rename_i after hafter
      obtain ⟨rfl, rfl⟩ := Prod.mk.inj (Option.some.inj h)
      refine ⟨before, '[' :: (blanks ++ [']']), hbefore, .emptyArray hinner hblanks, ?_⟩
      rw [hcs, htail, hinside, hafter]
      simp
    · rcases Option.map_eq_some_iff.mp h with ⟨⟨items, after⟩, hread, h⟩
      obtain ⟨rfl, rfl⟩ := Prod.mk.inj h
      rw [readItems?_skipBlanks] at hread
      rcases hsteps.items hread with ⟨text, hderives, rfl⟩
      refine ⟨before, '[' :: (text ++ [']']), hbefore, .array hinner hderives, ?_⟩
      rw [hcs, htail]
      simp
  · rename_i tail htail
    rcases Option.bind_eq_some_iff.mp h with ⟨inner, hinner, h⟩
    rcases hd.exists_blanks tail with ⟨blanks, hblanks, hinside⟩
    split at h
    · rename_i after hafter
      obtain ⟨rfl, rfl⟩ := Prod.mk.inj (Option.some.inj h)
      refine ⟨before, '{' :: (blanks ++ ['}']), hbefore, .emptyObject hinner hblanks, ?_⟩
      rw [hcs, htail, hinside, hafter]
      simp
    · rcases Option.map_eq_some_iff.mp h with ⟨⟨entries, after⟩, hread, h⟩
      obtain ⟨rfl, rfl⟩ := Prod.mk.inj h
      rw [readFields?_skipBlanks] at hread
      rcases hsteps.fields hread with ⟨text, hderives, rfl⟩
      refine ⟨before, '{' :: (text ++ ['}']), hbefore,
        .object hinner hderives (Fields.collects_ofList entries), ?_⟩
      rw [hcs, htail]
      simp
  · rcases hd.sound_scalar h with ⟨text, hscalar, htext⟩
    exact ⟨before, text, hbefore, .scalar hscalar, by rw [hcs, htext]⟩

/-- Items are read soundly when their parts are. -/
theorem readItems?_sound (hd : d.Follows g) {steps : Nat} (hsteps : ReadsSoundly d g steps)
    {depth : Option Nat} {cs rest : List Char} {items : List Json}
    (h : d.readItems? (steps + 1) depth cs = some (items, rest)) :
    ∃ text, g.Derives depth (.items items) text ∧ cs = text ++ ']' :: rest := by
  rw [readItems?] at h
  rcases Option.bind_eq_some_iff.mp h with ⟨⟨item, tail⟩, hitem, h⟩
  rcases hsteps.slot hd hitem with ⟨text, hderives, hfront⟩
  dsimp only at h
  split at h
  · rename_i after hafter
    obtain ⟨rfl, rfl⟩ := Prod.mk.inj (Option.some.inj h)
    exact ⟨text ++ [], .lastItem hderives (.inl rfl), by rw [hfront, hafter, List.append_nil]⟩
  · rename_i more hmore
    rcases hd.exists_blanks more with ⟨blanks, hblanks, hinside⟩
    split at h
    · rename_i after hafter
      split at h
      · rename_i hcomma
        obtain ⟨rfl, rfl⟩ := Prod.mk.inj (Option.some.inj h)
        rw [hd.allowsTrailingComma_eq] at hcomma
        refine ⟨text ++ ',' :: blanks, .lastItem hderives (.inr ⟨hcomma, blanks, hblanks, rfl⟩), ?_⟩
        rw [hfront, hmore, hinside, hafter]
        simp
      · contradiction
    · rcases Option.map_eq_some_iff.mp h with ⟨⟨items, after⟩, hread, h⟩
      obtain ⟨rfl, rfl⟩ := Prod.mk.inj h
      rw [readItems?_skipBlanks] at hread
      rcases hsteps.items hread with ⟨others, hothers, rfl⟩
      exact ⟨text ++ ',' :: others, .items hderives hothers, by rw [hfront, hmore]; simp⟩
  · contradiction

/-- Fields are read soundly when their parts are. -/
theorem readFields?_sound (hd : d.Follows g) {steps : Nat} (hsteps : ReadsSoundly d g steps)
    {depth : Option Nat} {cs rest : List Char} {fields : List (String × Json)}
    (h : d.readFields? (steps + 1) depth cs = some (fields, rest)) :
    ∃ text, g.Derives depth (.fields fields) text ∧ cs = text ++ '}' :: rest := by
  rcases hd.exists_blanks cs with ⟨before, hbefore, hcs⟩
  rw [readFields?] at h
  rcases Option.bind_eq_some_iff.mp h with ⟨⟨name, behind⟩, hname, h⟩
  rcases hd.sound_name hname with ⟨key, hkey, htext⟩
  rcases hd.exists_blanks behind with ⟨between, hbetween, hbehind⟩
  have hlabel : g.Label name (before ++ (key ++ between)) :=
    ⟨before, key, between, hbefore, hkey, hbetween, rfl⟩
  dsimp only at h
  split at h
  · rename_i tail htail
    rcases Option.bind_eq_some_iff.mp h with ⟨⟨value, tail⟩, hvalue, h⟩
    rcases hsteps.slot hd hvalue with ⟨text, hderives, hslot⟩
    have hfront : cs = before ++ (key ++ between) ++ ':' :: (text ++ d.skipBlanks tail) := by
      rw [hcs, htext, hbehind, htail, hslot]
      simp
    dsimp only at h
    split at h
    · rename_i after hafter
      obtain ⟨rfl, rfl⟩ := Prod.mk.inj (Option.some.inj h)
      exact ⟨_, .lastField hlabel hderives (.inl rfl), by rw [hfront, hafter]; simp⟩
    · rename_i more hmore
      rcases hd.exists_blanks more with ⟨blanks, hblanks, hinside⟩
      split at h
      · rename_i after hafter
        split at h
        · rename_i hcomma
          obtain ⟨rfl, rfl⟩ := Prod.mk.inj (Option.some.inj h)
          rw [hd.allowsTrailingComma_eq] at hcomma
          refine ⟨_, .lastField hlabel hderives (.inr ⟨hcomma, blanks, hblanks, rfl⟩), ?_⟩
          rw [hfront, hmore, hinside, hafter]
          simp
        · contradiction
      · rcases Option.map_eq_some_iff.mp h with ⟨⟨fields, after⟩, hread, h⟩
        obtain ⟨rfl, rfl⟩ := Prod.mk.inj h
        rw [readFields?_skipBlanks] at hread
        rcases hsteps.fields hread with ⟨others, hothers, rfl⟩
        exact ⟨_, .fields hlabel hderives hothers, by rw [hfront, hmore]; simp⟩
    · contradiction
  · contradiction

/-- Everything is read soundly, however many steps there are. -/
theorem readsSoundly (hd : d.Follows g) (steps : Nat) : ReadsSoundly d g steps := by
  induction steps with
  | zero =>
    refine ⟨fun h => ?_, fun h => ?_, fun h => ?_⟩
    · rw [readValue?] at h
      contradiction
    · rw [readItems?] at h
      contradiction
    · rw [readFields?] at h
      contradiction
  | succ steps ih => exact ⟨readValue?_sound hd ih, readItems?_sound hd ih, readFields?_sound hd ih⟩

/-! ### Completeness -/

/-- Behind its blanks a phrase starts, and not with a closing bracket. -/
theorem exists_head (hd : d.Follows g) {depth : Option Nat} {phrase : Phrase} {text : List Char}
    (h : g.Derives depth phrase text) : ∃ before c, g.Blanks before ∧
      g.isBlank c = false ∧ c ∉ [']', '}'] ∧ before ++ [c] <+: text := by
  have hmark : ∀ c ∉ marks, c ∉ [']', '}'] := by
    intro c hc
    simp only [marks, List.mem_cons, not_or] at hc ⊢
    tauto
  have hblank := hd.isBlank_mark
  have hnil := g.blanks_nil
  induction h with
  | scalar hscalar =>
    rcases hd.head_scalar hscalar with ⟨c, cs, rfl, hc⟩
    exact ⟨[], c, hnil, hc.1, hmark c hc.2, List.prefix_append [c] cs⟩
  | emptyArray | array =>
    exact ⟨[], '[', hnil, hblank '[' (by decide), by decide, List.prefix_append ['['] _⟩
  | emptyObject | object =>
    exact ⟨[], '{', hnil, hblank '{' (by decide), by decide, List.prefix_append ['{'] _⟩
  | slot hbefore _ _ ih =>
    rcases ih with ⟨blanks, c, hblanks, hc, hclose, hprefix⟩
    refine ⟨_ ++ blanks, c, List.forall_mem_append.mpr ⟨hbefore, hblanks⟩, hc, hclose, ?_⟩
    rw [List.append_assoc, List.prefix_append_right_inj]
    exact hprefix.trans (List.prefix_append _ _)
  | lastItem _ _ ih | items _ _ ih _ =>
    rcases ih with ⟨blanks, c, hblanks, hc, hclose, hprefix⟩
    exact ⟨blanks, c, hblanks, hc, hclose, hprefix.trans (List.prefix_append _ _)⟩
  | lastField hlabel | fields hlabel =>
    rcases hlabel with ⟨before, key, after, hbefore, hkey, -, rfl⟩
    rcases hd.head_name hkey with ⟨c, cs, rfl, hc⟩
    refine ⟨before, c, hbefore, hc.1, hmark c hc.2, ?_⟩
    rw [List.append_assoc, List.prefix_append_right_inj]
    exact List.prefix_append [c] _

/-- Behind its blanks a phrase with something behind it starts as the phrase does. -/
theorem exists_skipBlanks (hd : d.Follows g) {depth : Option Nat} {phrase : Phrase}
    {text : List Char} (h : g.Derives depth phrase text) (rest : List Char) :
    ∃ c cs, d.skipBlanks (text ++ rest) = c :: cs ∧ c ∉ [']', '}'] := by
  rcases hd.exists_head h with ⟨before, c, hbefore, hc, hclose, cs, rfl⟩
  refine ⟨c, cs ++ rest, ?_, hclose⟩
  rw [List.append_assoc, List.append_assoc, hd.skipBlanks_append hbefore, List.singleton_append,
    hd.skipBlanks_cons hc]

/-- What is behind the last part of something with a bracket or comma behind it. -/
def Closes (cs : List Char) : Prop :=
  ∀ c ∈ cs.head?, c ∈ [']', '}', ',']

/-- Nothing is skipped where something closes. -/
theorem skipBlanks_closes (hd : d.Follows g) {cs : List Char} (h : Closes cs) :
    d.skipBlanks cs = cs := by
  cases cs with
  | nil => rfl
  | cons c cs =>
    exact hd.skipBlanks_cons (hd.isBlank_mark c (mem_marks_of_closes c (h c rfl))) cs

/-- A reader takes a phrase with enough steps and returns what the phrase stands for. -/
def Reads (d : Dialect) (g : Grammar) (depth : Option Nat) : Phrase → List Char → Prop
  | .value v, text => ∀ steps before rest, 2 * text.length ≤ steps → g.Blanks before →
      g.Delimits rest → d.readValue? steps depth (before ++ (text ++ rest)) = some (v, rest)
  | .slot v, text => ∀ steps rest, 2 * text.length ≤ steps → Closes rest →
      ∃ behind, d.readValue? steps depth (text ++ rest) = some (v, behind) ∧
        d.skipBlanks behind = rest
  | .items items, text => ∀ steps rest, 2 * text.length < steps →
      d.readItems? steps depth (text ++ ']' :: rest) = some (items, rest)
  | .fields fields, text => ∀ steps rest, 2 * text.length < steps →
      d.readFields? steps depth (text ++ '}' :: rest) = some (fields, rest)

/-- A text with at least one character leaves a step to spend on it. -/
theorem exists_steps {c : Char} {cs : List Char} {steps : Nat}
    (h : 2 * (c :: cs).length ≤ steps) : ∃ n, steps = n + 1 ∧ 2 * cs.length < n := by
  rw [List.length_cons] at h
  exact ⟨steps - 1, by omega, by omega⟩

/-- A scalar is read in one step. -/
theorem reads_scalar (hd : d.Follows g) (depth : Option Nat) {v : Json} {text : List Char}
    (h : g.IsScalar text v) : Reads d g depth (.value v) text := by
  intro steps before rest hsteps hbefore hrest
  have hread := hd.complete_scalar h hrest
  rcases hd.head_scalar h with ⟨c, cs, rfl, hblank, hmark⟩
  rcases exists_steps hsteps with ⟨steps, rfl, -⟩
  have hc : c ≠ '[' ∧ c ≠ '{' := by
    simp only [marks, List.mem_cons, not_or] at hmark
    tauto
  rw [readValue?, hd.skipBlanks_append hbefore, List.cons_append, hd.skipBlanks_cons hblank]
  split
  · simp_all
  · simp_all
  · exact hread

/-- An array without items is read. -/
theorem reads_emptyArray (hd : d.Follows g) {depth inner : Option Nat} {blanks : List Char}
    (hinner : enter? depth = some inner) (hblanks : g.Blanks blanks) :
    Reads d g depth (.value (.array [])) ('[' :: (blanks ++ [']'])) := by
  intro steps before rest hsteps hbefore hrest
  rcases exists_steps hsteps with ⟨steps, rfl, -⟩
  have hclose : d.skipBlanks (blanks ++ [']'] ++ rest) = ']' :: rest := by
    rw [List.append_assoc]
    exact hd.skipBlanks_mark hblanks (by decide) rest
  rw [readValue?, List.cons_append, hd.skipBlanks_mark hbefore (by decide)]
  simp only [hinner, Option.bind_some, hclose]

/-- An array is read when its items are. -/
theorem reads_array (hd : d.Follows g) {depth inner : Option Nat} {items : List Json}
    {text : List Char} (hinner : enter? depth = some inner)
    (hderives : g.Derives inner (.items items) text) (h : Reads d g inner (.items items) text) :
    Reads d g depth (.value (.array items)) ('[' :: (text ++ [']'])) := by
  intro steps before rest hsteps hbefore hrest
  rcases exists_steps hsteps with ⟨steps, rfl, hlt⟩
  rw [List.length_append] at hlt
  have hcs : text ++ [']'] ++ rest = text ++ ']' :: rest := by simp
  rw [readValue?, List.cons_append, hd.skipBlanks_mark hbefore (by decide), hcs]
  rcases hd.exists_skipBlanks hderives (']' :: rest) with ⟨c, cs, hhead, hc⟩
  have hread := h steps rest (by omega)
  rw [← readItems?_skipBlanks, hhead] at hread
  simp only [hinner, hhead, Option.bind_some]
  split
  · simp_all
  · rw [hread]
    rfl

/-- An object without fields is read. -/
theorem reads_emptyObject (hd : d.Follows g) {depth inner : Option Nat} {blanks : List Char}
    (hinner : enter? depth = some inner) (hblanks : g.Blanks blanks) :
    Reads d g depth (.value (.object [])) ('{' :: (blanks ++ ['}'])) := by
  intro steps before rest hsteps hbefore hrest
  rcases exists_steps hsteps with ⟨steps, rfl, -⟩
  have hclose : d.skipBlanks (blanks ++ ['}'] ++ rest) = '}' :: rest := by
    rw [List.append_assoc]
    exact hd.skipBlanks_mark hblanks (by decide) rest
  rw [readValue?, List.cons_append, hd.skipBlanks_mark hbefore (by decide)]
  simp only [hinner, Option.bind_some, hclose]

/-- An object is read when its fields are. -/
theorem reads_object (hd : d.Follows g) {depth inner : Option Nat}
    {entries : List (String × Json)} {fields : Fields Json} {text : List Char}
    (hinner : enter? depth = some inner) (hderives : g.Derives inner (.fields entries) text)
    (hfields : Fields.Collects entries fields) (h : Reads d g inner (.fields entries) text) :
    Reads d g depth (.value (.object fields)) ('{' :: (text ++ ['}'])) := by
  intro steps before rest hsteps hbefore hrest
  rcases exists_steps hsteps with ⟨steps, rfl, hlt⟩
  rw [List.length_append] at hlt
  have hcs : text ++ ['}'] ++ rest = text ++ '}' :: rest := by simp
  rw [readValue?, List.cons_append, hd.skipBlanks_mark hbefore (by decide), hcs]
  rcases hd.exists_skipBlanks hderives ('}' :: rest) with ⟨c, cs, hhead, hc⟩
  have hread := h steps rest (by omega)
  rw [← readFields?_skipBlanks, hhead] at hread
  simp only [hinner, hhead, Option.bind_some]
  split
  · simp_all
  · rw [hread, Fields.collects_iff.mp hfields]
    rfl

/-- A value with blanks around it is read up to the blanks behind it. -/
theorem reads_slot (hd : d.Follows g) {depth : Option Nat} {v : Json}
    {before text after : List Char} (hbefore : g.Blanks before) (hafter : g.Blanks after)
    (h : Reads d g depth (.value v) text) :
    Reads d g depth (.slot v) (before ++ (text ++ after)) := by
  intro steps rest hsteps hrest
  have hdelimits : g.Delimits (after ++ rest) := by
    cases after with
    | nil => exact fun c hc => .inr (hrest c hc)
    | cons b after =>
      intro c hc
      obtain rfl : b = c := by simpa using hc
      exact .inl (hafter b List.mem_cons_self)
  simp only [List.length_append] at hsteps
  refine ⟨after ++ rest, ?_, by rw [hd.skipBlanks_append hafter, hd.skipBlanks_closes hrest]⟩
  rw [List.append_assoc, List.append_assoc]
  exact h steps before (after ++ rest) (by omega) hbefore hdelimits

/-- The last item is read when its value is. -/
theorem reads_lastItem (hd : d.Follows g) {depth : Option Nat} {v : Json}
    {text tail : List Char} (htail : g.Tail tail) (h : Reads d g depth (.slot v) text) :
    Reads d g depth (.items [v]) (text ++ tail) := by
  intro steps rest hsteps
  obtain ⟨steps, rfl⟩ : ∃ n, steps = n + 1 := Nat.exists_eq_succ_of_ne_zero (by omega)
  rw [List.length_append] at hsteps
  rcases htail with rfl | ⟨hcomma, blanks, hblanks, rfl⟩
  · rcases h steps (']' :: rest) (by omega) (by simp [Closes]) with ⟨behind, hread, hskip⟩
    rw [readItems?, List.append_nil, hread]
    simp [hskip]
  · rcases h steps (',' :: (blanks ++ ']' :: rest)) (by omega) (by simp [Closes]) with
      ⟨behind, hread, hskip⟩
    have hclose := hd.skipBlanks_mark hblanks (c := ']') (by decide) rest
    have hcs : text ++ ',' :: blanks ++ ']' :: rest = text ++ ',' :: (blanks ++ ']' :: rest) := by
      simp
    rw [readItems?, hcs, hread]
    simp [hskip, hclose, hd.allowsTrailingComma_eq, hcomma]

/-- Items are read one after the other. -/
theorem reads_items (hd : d.Follows g) {depth : Option Nat} {v : Json} {items : List Json}
    {text more : List Char} (hderives : g.Derives depth (.items items) more)
    (h : Reads d g depth (.slot v) text) (hmore : Reads d g depth (.items items) more) :
    Reads d g depth (.items (v :: items)) (text ++ ',' :: more) := by
  intro steps rest hsteps
  obtain ⟨steps, rfl⟩ : ∃ n, steps = n + 1 := Nat.exists_eq_succ_of_ne_zero (by omega)
  rw [List.length_append, List.length_cons] at hsteps
  rcases h steps (',' :: (more ++ ']' :: rest)) (by omega) (by simp [Closes]) with
    ⟨behind, hread, hskip⟩
  rcases hd.exists_skipBlanks hderives (']' :: rest) with ⟨c, cs, hhead, hc⟩
  have hitems := hmore steps rest (by omega)
  rw [← readItems?_skipBlanks, hhead] at hitems
  have hcs : text ++ ',' :: more ++ ']' :: rest = text ++ ',' :: (more ++ ']' :: rest) := by simp
  rw [readItems?, hcs, hread]
  simp only [Option.bind_some, hskip, hhead]
  split
  · simp_all
  · rw [hitems]
    rfl

/-- A name is read, and the blanks around it are skipped. -/
theorem readName?_label (hd : d.Follows g) {name : String} {label : List Char}
    (h : g.Label name label) (rest : List Char) : ∃ behind,
      d.readName? (d.skipBlanks (label ++ ':' :: rest)) = some (name, behind) ∧
        d.skipBlanks behind = ':' :: rest := by
  rcases h with ⟨before, key, after, hbefore, hkey, hafter, rfl⟩
  refine ⟨after ++ ':' :: rest, ?_, ?_⟩
  · have hread := hd.complete_name hkey (after ++ ':' :: rest)
    rcases hd.head_name hkey with ⟨c, cs, rfl, hc⟩
    rw [List.append_assoc, hd.skipBlanks_append hbefore, List.append_assoc, List.cons_append,
      hd.skipBlanks_cons hc.1, ← List.cons_append]
    exact hread
  · exact hd.skipBlanks_mark hafter (by decide) rest

/-- The last field is read when its value is. -/
theorem reads_lastField (hd : d.Follows g) {depth : Option Nat} {name : String} {v : Json}
    {label text tail : List Char} (hlabel : g.Label name label) (htail : g.Tail tail)
    (h : Reads d g depth (.slot v) text) :
    Reads d g depth (.fields [(name, v)]) (label ++ ':' :: (text ++ tail)) := by
  intro steps rest hsteps
  obtain ⟨steps, rfl⟩ : ∃ n, steps = n + 1 := Nat.exists_eq_succ_of_ne_zero (by omega)
  simp only [List.length_append, List.length_cons] at hsteps
  have hcs : label ++ ':' :: (text ++ tail) ++ '}' :: rest =
      label ++ ':' :: (text ++ (tail ++ '}' :: rest)) := by simp
  rcases hd.readName?_label hlabel (text ++ (tail ++ '}' :: rest)) with ⟨behind, hname, hcolon⟩
  rw [readFields?, hcs, hname]
  rcases htail with rfl | ⟨hcomma, blanks, hblanks, rfl⟩
  · rcases h steps ('}' :: rest) (by omega) (by simp [Closes]) with ⟨after, hread, hskip⟩
    simp [hcolon, hread, hskip]
  · rcases h steps (',' :: (blanks ++ '}' :: rest)) (by omega) (by simp [Closes]) with
      ⟨after, hread, hskip⟩
    have hclose := hd.skipBlanks_mark hblanks (c := '}') (by decide) rest
    simp [hcolon, hread, hskip, hclose, hd.allowsTrailingComma_eq, hcomma]

/-- Fields are read one after the other. -/
theorem reads_fields (hd : d.Follows g) {depth : Option Nat} {name : String} {v : Json}
    {fields : List (String × Json)} {label text more : List Char} (hlabel : g.Label name label)
    (hderives : g.Derives depth (.fields fields) more) (h : Reads d g depth (.slot v) text)
    (hmore : Reads d g depth (.fields fields) more) :
    Reads d g depth (.fields ((name, v) :: fields)) (label ++ ':' :: (text ++ ',' :: more)) := by
  intro steps rest hsteps
  obtain ⟨steps, rfl⟩ : ∃ n, steps = n + 1 := Nat.exists_eq_succ_of_ne_zero (by omega)
  simp only [List.length_append, List.length_cons] at hsteps
  have hcs : label ++ ':' :: (text ++ ',' :: more) ++ '}' :: rest =
      label ++ ':' :: (text ++ ',' :: (more ++ '}' :: rest)) := by simp
  rcases hd.readName?_label hlabel (text ++ ',' :: (more ++ '}' :: rest)) with
    ⟨behind, hname, hcolon⟩
  rcases h steps (',' :: (more ++ '}' :: rest)) (by omega) (by simp [Closes]) with
    ⟨after, hread, hskip⟩
  rcases hd.exists_skipBlanks hderives ('}' :: rest) with ⟨c, cs, hhead, hc⟩
  have hfields := hmore steps rest (by omega)
  rw [← readFields?_skipBlanks, hhead] at hfields
  rw [readFields?, hcs, hname]
  simp only [Option.bind_some, hcolon, hread, hskip, hhead]
  split
  · simp_all
  · rw [hfields]
    rfl

/-- Every phrase is read. -/
theorem reads (hd : d.Follows g) {depth : Option Nat} {phrase : Phrase} {text : List Char}
    (h : g.Derives depth phrase text) : Reads d g depth phrase text := by
  induction h with
  | scalar h => exact hd.reads_scalar _ h
  | emptyArray hinner hblanks => exact hd.reads_emptyArray hinner hblanks
  | array hinner hderives ih => exact hd.reads_array hinner hderives ih
  | emptyObject hinner hblanks => exact hd.reads_emptyObject hinner hblanks
  | object hinner hderives hfields ih => exact hd.reads_object hinner hderives hfields ih
  | slot hbefore _ hafter ih => exact hd.reads_slot hbefore hafter ih
  | lastItem _ htail ih => exact hd.reads_lastItem htail ih
  | items _ hmore ih ihmore => exact hd.reads_items hmore ih ihmore
  | lastField hlabel _ htail ih => exact hd.reads_lastField hlabel htail ih
  | fields hlabel _ hmore ih ihmore => exact hd.reads_fields hlabel hmore ih ihmore

/-- A dialect that follows a grammar reads exactly the texts of the grammar, each as the
value that it stands for. -/
theorem read?_eq_some_iff (hd : d.Follows g) {cs : List Char} {v : Json} :
    d.read? cs = some v ↔ g.Derives d.maxDepth (.slot v) cs := by
  constructor
  · intro h
    rcases Option.bind_eq_some_iff.mp h with ⟨⟨value, rest⟩, hread, h⟩
    rcases (hd.readsSoundly _).slot hd hread with ⟨text, hderives, hcs⟩
    dsimp only at h
    split at h
    · rename_i hempty
      rw [List.isEmpty_iff.mp hempty, List.append_nil] at hcs
      obtain rfl := Option.some.inj h
      rwa [hcs]
    · contradiction
  · intro h
    rcases hd.reads h (2 * cs.length + 2) [] (by omega) (by simp [Closes]) with
      ⟨behind, hread, hskip⟩
    rw [List.append_nil] at hread
    rw [read?, hread]
    simp [hskip]

end Follows

end Dialect

end Reshape
