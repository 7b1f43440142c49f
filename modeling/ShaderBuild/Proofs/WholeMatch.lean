import ShaderBuild.Proofs.FurtherText
import ShaderBuild.Proofs.NumbersText
import ShaderBuild.Text.Category

/-!
What a pattern accepts whose text is an expression by itself. Between the anchors of a whole match
it is read as one group, step by step as it is read alone, so nothing in it rearranges the anchors.
Main statement: `Pattern.accepts_iff_of_own_expression`.
-/

namespace ShaderBuild

namespace Regex

/-! ## One group more -/

namespace Progress

/-- The flags and the number of the outermost of the open groups are those of no group. -/
def Ground (level : Level) : List Level → Prop
  | [] => level.flags = {} ∧ level.index = none
  | around :: outer => Ground around outer

theorem Ground.withParts {level : Level} {outer : List Level} (h : Ground level outer)
    (done items : List Item) :
    Ground { level with done, items } outer := by
  cases outer with
  | nil => exact h
  | cons around outer => exact h

/-- The second has read the same in a group inside of `base`. -/
structure Within (base : Level) (p p' : Progress) : Prop where
  same : p' = { p with outer := p.outer ++ [base] }
  ground : Ground p.level p.outer

/-- Where both go on, they go on alike. -/
def BothOpen (base : Level) (first second : Option Progress) : Prop :=
  ∀ q q', first = some q → second = some q' → Within base q q'

/-- Where both read on, they read the same, and more of the text is left behind the second. -/
def BothRead (base : Level) (first second : Option (Progress × List Char)) : Prop :=
  ∀ q rest q' rest', first = some (q, rest) → second = some (q', rest') →
    Within base q q' ∧ Further rest rest'

variable {properties : Text.Properties} {base : Level} {p p' : Progress} {rest rest' : List Char}

namespace BothRead

theorem fail {second : Option (Progress × List Char)} : BothRead base none second := by
  rintro q rest q' rest' ⟨⟩

theorem done (h : Within base p p') (hrest : Further rest rest') :
    BothRead base (some (p, rest)) (some (p', rest')) := by
  rintro q left q' left' ⟨⟩ ⟨⟩
  exact ⟨h, hrest⟩

theorem ofOpen {first second : Option Progress} (h : BothOpen base first second)
    (hrest : Further rest rest') :
    BothRead base (first.bind fun q => some (q, rest)) (second.bind fun q => some (q, rest')) := by
  intro q left q' left' hq hq'
  obtain ⟨q, hfirst, ⟨⟩⟩ := Option.bind_eq_some_iff.1 hq
  obtain ⟨q', hsecond, ⟨⟩⟩ := Option.bind_eq_some_iff.1 hq'
  exact ⟨h _ _ hfirst hsecond, hrest⟩

theorem mapOpen {first second : Option Progress} (h : BothOpen base first second)
    (hrest : Further rest rest') :
    BothRead base (first.map (·, rest)) (second.map (·, rest')) := by
  rw [Option.map_eq_bind, Option.map_eq_bind]
  exact ofOpen h hrest

theorem bind {α : Type} {first second : Option (α × List Char)} (h : ReadsOn first second)
    {next next' : α × List Char → Option (Progress × List Char)}
    (hnext : ∀ a {rest rest' : List Char}, Further rest rest' → BothRead base (next (a, rest))
    (next' (a, rest'))) :
    BothRead base (first.bind next) (second.bind next') := by
  intro q left q' left' hq hq'
  obtain ⟨⟨a, middle⟩, hfirst, hthen⟩ := Option.bind_eq_some_iff.1 hq
  obtain ⟨middle', hsecond, hmiddle⟩ := h a middle hfirst
  rw [hsecond, Option.bind_some] at hq'
  exact hnext a hmiddle q left q' left' hthen hq'

end BothRead

/-! ## What follows an opening parenthesis -/

/-- What stands between a question mark and the name of a group, in either form. -/
inductive Named : List Char → List Char → Prop where
  | short (text : List Char) : Named ('<' :: text) text
  | long (text : List Char) : Named ('P' :: '<' :: text) text

namespace Named

variable {body body' text text' : List Char}

theorem further (h : Named body text) (hbody : Further body body') :
    ∃ text', Named body' text' ∧ Further text text' := by
  cases h with
  | short =>
    cases hbody with
    | cons _ htext => exact ⟨_, .short _, htext⟩
  | long =>
    cases hbody with
    | cons _ hbody =>
      cases hbody with
      | cons _ htext => exact ⟨_, .long _, htext⟩

theorem of_further (h : Named body' text') (hbody : Further body body') :
    ∃ text, Named body text := by
  cases h with
  | short =>
    cases hbody with
    | cons _ htext => exact ⟨_, .short _⟩
  | long =>
    cases hbody with
    | cons _ hbody =>
      cases hbody with
      | cons _ htext => exact ⟨_, .long _⟩

end Named

/-- What has been read once the name of a group has. -/
def named? (p : Progress) : List Char × List Char → Option (Progress × List Char)
  | (name, rest) => (p.openNamed? name).bind fun q => some (q, rest)

/-- What has been read once the flags of a group have. -/
def flagged? (p : Progress) : Flags × List Char → Option (Progress × List Char)
  | (inner, ':' :: rest) => (p.openGroup? none inner).map (·, rest)
  | (inner, _ :: rest) => some ({ p with flags := inner }.push .flagChange, rest)
  | (_, []) => none

theorem group?_of_name {cs body text : List Char} (hskip : skip p.flags cs = '?' :: body)
    (hname : Named body text) :
    p.group? cs = (groupName? text).bind p.named? := by
  unfold Progress.group?
  rw [hskip]
  cases hname with
  | short => rfl
  | long => rfl

theorem group?_of_flags {cs body : List Char} (hskip : skip p.flags cs = '?' :: body)
    (hname : ¬ ∃ text, Named body text) :
    p.group? cs = (flags? [] true p.flags body).bind p.flagged? := by
  unfold Progress.group?
  rw [hskip]
  split
  · rename_i heq
    cases heq
    exact absurd ⟨_, .long _⟩ hname
  · rename_i heq
    cases heq
    exact absurd ⟨_, .short _⟩ hname
  · rename_i heq
    cases heq
    refine congrArg (Option.bind _) (funext fun found => ?_)
    obtain ⟨inner, rest⟩ := found
    cases rest with
    | nil => rfl
    | cons c rest =>
      by_cases hc : c = ':'
      · subst hc
        exact Option.map_eq_bind.symm
      · simp only [flagged?]
        rfl
  · rename_i hother
    exact absurd rfl (hother body)

theorem group?_of_other {cs ahead : List Char} (hskip : skip p.flags cs = ahead)
    (hne : ∀ body, ahead ≠ '?' :: body) :
    p.group? cs = p.openNumbered?.map (·, ahead) := by
  simp only [Progress.group?, hskip, hne, imp_self, implies_true]

/-! ## Steps -/

namespace Within

theorem push (h : Within base p p') (item : Item) : Within base (p.push item) (p'.push item) := by
  obtain ⟨rfl, hground⟩ := h
  exact ⟨rfl, hground.withParts _ _⟩

theorem flags (h : Within base p p') : p'.flags = p.flags := by rw [h.same]

theorem withFlags (h : Within base p p') (flags : Flags) :
    Within base { p with flags } { p' with flags } := by
  obtain ⟨rfl, hground⟩ := h
  exact ⟨rfl, hground⟩

theorem nextAlternative (h : Within base p p') :
    Within base { p with level := p.level.nextAlternative }
      { p' with level := p'.level.nextAlternative } := by
  obtain ⟨rfl, hground⟩ := h
  exact ⟨rfl, hground.withParts _ _⟩

theorem openGroup? (h : Within base p p') (index : Option Nat) (flags : Flags) :
    BothOpen base (p.openGroup? index flags) (p'.openGroup? index flags) := by
  obtain ⟨rfl, hground⟩ := h
  intro q q' hq hq'
  unfold Progress.openGroup? at hq hq'
  split at hq
  · split at hq'
    · cases hq
      cases hq'
      exact ⟨rfl, hground⟩
    · cases hq'
  · cases hq

theorem openNumbered? (h : Within base p p') : BothOpen base p.openNumbered? p'.openNumbered? := by
  obtain ⟨rfl, hground⟩ := h
  exact openGroup? (p := { p with groups := p.groups + 1 }) ⟨rfl, hground⟩ _ _

theorem openNamed? (h : Within base p p') (name : List Char) :
    BothOpen base (p.openNamed? name) (p'.openNamed? name) := by
  obtain ⟨rfl, hground⟩ := h
  unfold Progress.openNamed?
  split
  · rintro q q' ⟨⟩
  · exact openNumbered? (p := { p with names := name :: p.names }) ⟨rfl, hground⟩

theorem closeGroup? (h : Within base p p') : BothOpen base p.closeGroup? p'.closeGroup? := by
  obtain ⟨rfl, hground⟩ := h
  obtain ⟨flags, groups, names, level, outer⟩ := p
  intro q q' hq hq'
  cases outer with
  | nil => cases hq
  | cons around outer =>
    cases hq
    cases hq'
    have haround : Ground around outer := hground
    exact ⟨rfl, haround.withParts _ _⟩

theorem repeatLast? (h : Within base p p') (least : Nat) (most : Option Nat) (lazy : Bool) :
    BothOpen base (p.repeatLast? least most lazy) (p'.repeatLast? least most lazy) := by
  obtain ⟨rfl, hground⟩ := h
  obtain ⟨flags, groups, names, ⟨around, index, done, items⟩, outer⟩ := p
  intro q q' hq hq'
  unfold Progress.repeatLast? at hq hq'
  cases items with
  | nil => cases hq
  | cons item items =>
    simp only at hq hq'
    split at hq
    · rename_i hrepeat
      rw [if_pos hrepeat] at hq'
      cases hq
      cases hq'
      exact ⟨rfl, hground.withParts _ _⟩
    · cases hq

theorem repeatPlain? (h : Within base p p') (hrest : Further rest rest') (least : Nat)
    (most : Option Nat) :
    BothRead base (p.repeatPlain? least most rest) (p'.repeatPlain? least most rest') := by
  unfold Progress.repeatPlain?
  rcases hrest.sign '?' (by decide) with ⟨after, after', rfl, rfl, hafter⟩ | ⟨hne, hne'⟩
  · exact .mapOpen (h.repeatLast? least most true) hafter
  · simp only
    exact .mapOpen (h.repeatLast? least most false) hrest

theorem repeatCounted? (h : Within base p p') (hrest : Further rest rest') :
    BothRead base (p.repeatCounted? rest) (p'.repeatCounted? rest') := by
  unfold Progress.repeatCounted?
  rw [h.flags]
  refine .bind (counts?_further hrest) fun ⟨least, most⟩ {rest rest'} hrest => ?_
  have hskip := hrest.skip p.flags
  simp only
  generalize skip p.flags rest = behind at hskip
  generalize skip p.flags rest' = behind' at hskip
  rcases hskip.sign '?' (by decide) with ⟨after, after', rfl, rfl, hafter⟩ | ⟨hne, hne'⟩
  · exact .ofOpen (h.repeatLast? least most true) hafter
  · simp only
    exact .ofOpen (h.repeatLast? least most false) hskip

theorem group? (h : Within base p p') (hrest : Further rest rest') :
    BothRead base (p.group? rest) (p'.group? rest') := by
  have hskip := hrest.skip p.flags
  generalize hcs : skip p.flags rest = ahead at hskip
  have hcs' : skip p'.flags rest' = skip p.flags rest' := by rw [h.flags]
  generalize skip p.flags rest' = ahead' at hskip hcs'
  rcases hskip.sign '?' (by decide) with ⟨body, body', rfl, rfl, hbody⟩ | ⟨hne, hne'⟩
  · by_cases hname : ∃ text, Named body text
    · obtain ⟨text, hname⟩ := hname
      obtain ⟨text', hname', htext⟩ := hname.further hbody
      rw [group?_of_name hcs hname, group?_of_name hcs' hname']
      exact .bind (groupName?_further htext) fun name {rest rest'} hrest =>
        .ofOpen (h.openNamed? name) hrest
    · have hname' : ¬ ∃ text', Named body' text' := by
        rintro ⟨text', hname'⟩
        exact hname (hname'.of_further hbody)
      rw [group?_of_flags hcs hname, group?_of_flags hcs' hname', h.flags]
      refine .bind (flags?_further hbody [] true p.flags) fun inner {rest rest'} hrest => ?_
      cases hrest with
      | behind => exact .fail
      | swallowed => exact .fail
      | @cons c rest rest' hrest =>
        by_cases hc : c = ':'
        · subst hc
          exact .mapOpen (h.openGroup? none inner) hrest
        · simp only [flagged?]
          exact .done ((h.withFlags inner).push .flagChange) hrest
  · rw [group?_of_other hcs hne, group?_of_other hcs' hne']
    exact .mapOpen h.openNumbered? hskip

theorem escaped? (h : Within base p p') (hrest : Further rest rest') :
    BothRead base (p.escaped? properties rest) (p'.escaped? properties rest') := by
  unfold Progress.escaped?
  rw [h.flags]
  refine .bind (escape?_further hrest properties p.flags) fun e {rest rest'} hrest => ?_
  cases e with
  | char c asByte =>
    simp only
    split
    · exact .fail
    · exact .done (h.push _) hrest
  | set s => exact .done (h.push _) hrest
  | anchor a => exact .done (h.push _) hrest

theorem step? (h : Within base p p') (c : Char) (hrest : Further rest rest') :
    BothRead base (p.step? properties c rest) (p'.step? properties c rest') := by
  unfold Progress.step?
  -- One case for each character with a meaning of its own, in the order of the reader, and one for
  -- all others.
  split
  · exact h.group? hrest
  · exact .mapOpen h.closeGroup? hrest
  · exact .done h.nextAlternative hrest
  · exact h.repeatPlain? hrest 0 none
  · exact h.repeatPlain? hrest 1 none
  · exact h.repeatPlain? hrest 0 (some 1)
  · exact h.repeatCounted? hrest
  · rw [h.flags]
    exact .bind (bracket?_further hrest properties p.flags) fun found {rest rest'} hrest =>
      .done (h.push _) hrest
  · rw [h.flags]
    cases dot? p.flags with
    | none => exact .fail
    | some r => exact .done (h.push _) hrest
  · rw [h.flags]
    exact .done (h.push _) hrest
  · rw [h.flags]
    exact .done (h.push _) hrest
  · exact h.escaped? hrest
  · rw [h.flags]
    exact .done (h.push _) hrest

end Within

/-! ## Runs -/

/-- The group that is open between the anchors of a whole match, closed, and the anchor at the
end. -/
def enclosed (base : Level) (item : Item) : Item :=
  ((base.push ⟨item.regex, item.depth + 1, true⟩).push (.leaf (.anchor .textEnd))).content

theorem run?_closing (h : Within base p p') (houter : p.outer = []) {cs : List Char}
    (hskip : skip p'.flags cs = [')', '$']) {fuel : Nat} {item : Item}
    (hrun : p'.run? properties fuel cs = some item) :
    item = enclosed base p.level.content := by
  obtain ⟨hflags, hindex⟩ : p.level.flags = {} ∧ p.level.index = none := by
    have hground := h.ground
    rwa [houter] at hground
  have hlevel : p.level.close = ⟨p.level.content.regex, p.level.content.depth + 1, true⟩ := by
    rw [Level.close, hindex]
  have hclose : p'.closeGroup? = some ⟨{}, p.groups, p.names, base.push p.level.close, []⟩ := by
    rw [h.same, Progress.closeGroup?, houter, ← hflags]
    rfl
  have hstep :
      p'.step? properties ')' ['$'] =
        some (⟨{}, p.groups, p.names, base.push p.level.close, []⟩, ['$']) := by
    rw [Progress.step?, hclose]
    rfl
  -- Three steps are left: the closing parenthesis, the anchor and the end of the text.
  rcases fuel with _ | _ | _ | fuel
  · cases hrun
  · simp only [run?, hskip, hstep] at hrun
    cases hrun
  · simp only [run?, hskip, hstep] at hrun
    cases hrun
  · have hend : p'.run? properties (fuel + 3) cs = some (enclosed base p.level.content) := by
      rw [run?, hskip]
      simp only [hstep]
      rw [run?_cons rfl rfl, hlevel]
      rfl
    exact Option.some.inj (hrun.symm.trans hend)

theorem run?_within (h : Within base p p') {cs cs' : List Char} (hcs : Further cs cs')
    {fuel fuel' : Nat} {item item' : Item} (hfirst : p.run? properties fuel cs = some item)
    (hsecond : p'.run? properties fuel' cs' = some item') :
    item' = enclosed base item := by
  induction fuel generalizing fuel' p p' cs cs' with
  | zero => cases hfirst
  | succ fuel ih =>
    have hskip := hcs.skip p.flags
    have hflags : skip p'.flags cs' = skip p.flags cs' := by rw [h.flags]
    unfold run? at hfirst
    generalize skip p.flags cs = ahead at hskip hfirst
    generalize skip p.flags cs' = ahead' at hskip hflags
    cases fuel' with
    | zero => cases hsecond
    | succ fuel' =>
      cases hskip with
      | behind =>
        simp only at hfirst
        split at hfirst
        · rename_i houter
          cases hfirst
          exact run?_closing h (List.isEmpty_iff.1 houter) hflags hsecond
        · cases hfirst
      | swallowed =>
        -- A comment has taken the closing parenthesis, and the group stays open.
        obtain ⟨rfl, hground⟩ := h
        simp [run?, hflags] at hsecond
      | @cons c rest rest' hrest =>
        simp only [run?, hflags] at hfirst hsecond
        have hstep : BothRead _ (p.step? properties c rest) (p'.step? properties c rest') :=
          h.step? c hrest
        generalize p.step? properties c rest = first at hfirst hstep
        generalize p'.step? properties c rest' = second at hsecond hstep
        cases first with
        | none => cases hfirst
        | some q =>
          cases second with
          | none => cases hsecond
          | some q' =>
            obtain ⟨hwithin, hbehind⟩ := hstep _ _ _ _ rfl rfl
            exact ih hwithin hbehind hfirst hsecond

end Progress

/-! ## Expressions put together -/

section Sequence

variable {text : Array Char} {i k : Nat}

theorem spansAll_singleton {r : Regex} : SpansAll text [r] i k ↔ Spans text r i k := by
  constructor
  · rintro ⟨j, hr, rfl⟩
    exact hr
  · intro hr
    exact ⟨k, hr, rfl⟩

theorem spansAll_factors {r : Regex} : SpansAll text (factors r) i k ↔ Spans text r i k := by
  cases r with
  | empty => exact Iff.rfl
  | seq rs => exact Iff.rfl
  | literal cs => exact spansAll_singleton
  | set s ascii => exact spansAll_singleton
  | anchor a => exact spansAll_singleton
  | group index r => exact spansAll_singleton
  | either rs => exact spansAll_singleton
  | times r least most greedy => exact spansAll_singleton

theorem spansAll_flatMap_factors {rs : List Regex} :
    SpansAll text (rs.flatMap factors) i k ↔ SpansAll text rs i k := by
  induction rs generalizing i with
  | nil => exact Iff.rfl
  | cons r rs ih => simp only [List.flatMap_cons, spansAll_append, spansAll_factors, ih, SpansAll]

theorem spansAll_joinLiterals {r : Regex} {rs : List Regex} :
    SpansAll text (joinLiterals r rs) i k ↔ SpansAll text (r :: rs) i k := by
  fun_cases joinLiterals r rs with
  | case1 cs ds rest => exact spansAll_literal_append
  | case2 => exact Iff.rfl

theorem spansAll_foldr_joinLiterals {rs : List Regex} :
    SpansAll text (rs.foldr joinLiterals []) i k ↔ SpansAll text rs i k := by
  induction rs generalizing i with
  | nil => exact Iff.rfl
  | cons r rs ih => simp only [List.foldr_cons, spansAll_joinLiterals, SpansAll, ih]

theorem spans_sequence {rs : List Regex} : Spans text (sequence rs) i k ↔ SpansAll text rs i k := by
  rw [← spansAll_flatMap_factors, ← spansAll_foldr_joinLiterals, sequence]
  split
  · rename_i hnone
    rw [hnone]
    exact Iff.rfl
  · rename_i r hone
    rw [hone]
    exact spansAll_singleton.symm
  · exact Iff.rfl

end Sequence

/-! ## The text between its anchors -/

theorem Further.append (cs : List Char) : Further cs (cs ++ ")$".toList) := by
  induction cs with
  | nil => exact .behind
  | cons c cs ih => exact .cons c ih

/-- What is open outside of the group of a whole match. -/
def Level.anchored : Level := (Level.ofGroup {} none).push (.leaf (.anchor .textStart))

theorem Progress.within_inGroup : Within .anchored start inGroup where
  same := rfl
  ground := ⟨rfl, rfl⟩

theorem read?_enclosed {properties : Text.Properties} {text : List Char} {r enclosed : Regex}
    (hr : read? properties text = some r)
    (henclosed : read? properties ("^(?:".toList ++ text ++ ")$".toList) = some enclosed) :
    enclosed = sequence [.anchor .textStart, r, .anchor .textEnd] := by
  obtain ⟨item, hfirst, hitem⟩ := Option.bind_eq_some_iff.1 hr
  obtain ⟨item', hsecond, hitem'⟩ := Option.bind_eq_some_iff.1 henclosed
  have hopen : Progress.start.run? properties (("^(?:".toList ++ text ++ ")$".toList).length + 1)
        ("^(?:".toList ++ text ++ ")$".toList) =
      Progress.inGroup.run? properties ((text ++ ")$".toList).length + 2 + 1)
        (text ++ ")$".toList) := by
    rw [List.append_assoc]
    exact (Progress.run?_cons rfl rfl _).trans (Progress.run?_cons rfl rfl _)
  rw [hopen] at hsecond
  have hsame := Progress.run?_within Progress.within_inGroup (.append text) hfirst hsecond
  split at hitem
  · split at hitem'
    · cases hitem
      cases hitem'
      rw [hsame]
      rfl
    · cases hitem'
  · cases hitem

theorem eq_some_of_same {found : Option Regex} {r : Regex} (h : found.any (same r) = true) :
    found = some r := by
  obtain ⟨s, rfl, hsame⟩ := (Option.any_eq_true _ _).1 h
  rw [eq_of_same hsame]

end Regex

namespace Pattern

open Regex

/-- The names that are accepted are those that the text's own expression matches from the first to
the last character, and so does the compiled one. -/
theorem accepts_iff_of_own_expression {properties : Text.Properties} {text : String} {p : Pattern}
    {r : Regex} (hp : compile? properties text = some p)
    (hr : read? properties text.toList = some r) (name : String) :
    (p.accepts name = true ↔ Spans name.toList.toArray r 0 name.toList.length) ∧
      (p.accepts name = true → Spans name.toList.toArray p.regex 0 name.toList.length) := by
  obtain ⟨enclosed, henclosed, rfl⟩ := Option.map_eq_some_iff.1 hp
  have hread := (Option.filter_eq_some_iff.1 henclosed).1
  obtain rfl := read?_enclosed hr hread
  have hwhole :
    ∀ i k, Spans name.toList.toArray (sequence [.anchor .textStart, r, .anchor .textEnd]) i k ↔
      Spans name.toList.toArray (whole r).regex i k := fun i k => spans_sequence
  have haccepts : (Pattern.mk (sequence [.anchor .textStart, r, .anchor .textEnd])).accepts name =
      (whole r).accepts name := by
    rw [Bool.eq_iff_iff, accepts_iff, accepts_iff]
    simp only [hwhole]
  rw [haccepts, accepts_whole_iff]
  refine ⟨Iff.rfl, fun hspans => (hwhole _ _).2 ?_⟩
  exact ⟨0, ⟨rfl, rfl⟩, _, hspans, _, ⟨beq_self_eq_true _, rfl⟩, rfl⟩

namespace WholeMatch

/-- In this text, which asks for a property, the end of a line is meant by its own anchor, but not
by that of the whole match. -/
def linesText : String := "(?m)[\\pN&&[0-9]]|b$"

def linesExpression : Regex :=
  .either [.set asciiDigits false, .seq [.literal ['b'], .anchor .lineEnd]]

theorem read?_linesText : read? Text.categories linesText.toList = some linesExpression :=
  eq_some_of_same (by decide +kernel)

theorem compile?_linesText :
    compile? Text.categories linesText = some (whole linesExpression) := by
  have hread : ofText? Text.categories ("^(?:".toList ++ linesText.toList ++ ")$".toList) =
      some (whole linesExpression).regex :=
    eq_some_of_same (by decide +kernel)
  rw [compile?, hread]
  rfl

theorem accepts_iff_of_own_expression_lines :
    compile? Text.categories linesText = some (whole linesExpression) ∧
      read? Text.categories linesText.toList = some linesExpression ∧
        (whole linesExpression).accepts "7" = true ∧ (whole linesExpression).accepts "b" = true ∧
          (whole linesExpression).accepts "b\nc" = false := by
  have haccepts := accepts_iff_of_own_expression compile?_linesText read?_linesText
  have hdigit : asciiDigits.contains '7' = true := by decide
  refine ⟨compile?_linesText, read?_linesText, (haccepts "7").1.2 ?_, (haccepts "b").1.2 ?_,
    Bool.eq_false_iff.2 (mt (haccepts "b\nc").1.1 ?_)⟩
  · simp [linesExpression, Spans, SpansAny, hdigit]
  · simp [linesExpression, Spans, SpansAny, SpansAll, Anchor.holds]
  · simp [linesExpression, Spans, SpansAny, SpansAll]

/-- The closing parenthesis of the text has ended the group of the whole match, so each alternative
has one anchor. -/
def partsExpression : Regex :=
  .either [.seq [.anchor .textStart, .literal ['a']],
    .seq [.group 1 (.literal ['b']), .anchor .textEnd]]

theorem part_can_be_accepted :
    ∃ p, compile? Text.categories "a)|(b" = some p ∧ p.accepts "ax" = true ∧
      ¬ Spans "ax".toList.toArray p.regex 0 "ax".toList.length := by
  have hread : ofText? Text.categories ("^(?:".toList ++ "a)|(b".toList ++ ")$".toList) =
      some partsExpression :=
    eq_some_of_same (by decide +kernel)
  refine ⟨⟨partsExpression⟩, ?_, by decide +kernel, ?_⟩
  · rw [compile?, hread]
    rfl
  · simp [partsExpression, Spans, SpansAny, SpansAll, Anchor.holds]

end WholeMatch

end Pattern

end ShaderBuild
