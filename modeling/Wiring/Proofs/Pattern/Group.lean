import Wiring.Proofs.Pattern.Bracket

/-!
# Groups in front of a closing bracket

The start of a group and the bounds of a repetition are read in front of the closing bracket as they
are without it. Switches are not: those at the end of the text take the bracket for the end of a
group that only sets switches, but then too little is left for the group around the text.
-/

namespace Wiring.Pattern

section
variable {cs rest : List Char} {flags : Flags}

/-! ## Bounds of repetitions -/

/-- What digits leave is the end of the text. -/
theorem suffix_digits (flags : Flags) (n : Nat) (cs : List Char) :
    (digits flags n cs).2 <:+ cs := by
  induction n generalizing cs with
  | zero => exact List.suffix_rfl
  | succ n ih =>
    rw [digits.eq_def]
    dsimp only
    split
    · exact List.suffix_rfl
    · split
      · exact ((ih _).trans ((skips_spaced flags).suffix _)).trans (List.suffix_cons _ _)
      · exact List.suffix_rfl

/-- Digits are taken the same in front of the closing bracket. -/
theorem digits_closing {n m : Nat} {ds : List Char} (hn : cs.length ≤ n) (hm : cs.length ≤ m)
    (h : digits flags n (cs ++ closing) = (ds, rest)) (hlen : 2 ≤ rest.length) :
    ∃ r, rest = r ++ closing ∧ digits flags m cs = (ds, r) := by
  have hdigit : ')'.isDigit = false := by decide
  induction n generalizing m ds cs with
  | zero =>
    obtain rfl := List.eq_nil_of_length_eq_zero (Nat.le_zero.1 hn)
    cases h
    exact ⟨[], rfl, by cases m <;> rfl⟩
  | succ n ih =>
    cases cs with
    | nil =>
      rw [List.nil_append, closing, digits, hdigit, if_neg Bool.false_ne_true] at h
      cases h
      exact ⟨[], rfl, by cases m <;> rfl⟩
    | cons c cs =>
      obtain ⟨m, rfl⟩ : ∃ k, m = k + 1 := ⟨m - 1, by simp at hm; omega⟩
      rw [List.cons_append, digits] at h
      rw [digits]
      split at h
      · next hc =>
        rw [if_pos hc]
        obtain ⟨hds, hrest⟩ := Prod.mk.inj h
        have hle := ((skips_spaced flags).suffix cs).length_le
        rw [List.length_cons] at hn hm
        rcases (skips_spaced flags).closing cs with heq | hnil
        · rw [heq] at hds hrest
          obtain ⟨r, hr, halone⟩ := ih (show (skipSpaced flags cs).length ≤ n by omega)
            (show (skipSpaced flags cs).length ≤ m by omega) (Prod.ext rfl hrest)
          exact ⟨r, hr, by rw [halone, ← hds]⟩
        · have hle := (suffix_digits flags n []).length_le
          rw [hnil] at hrest
          rw [hrest] at hle
          exact absurd (Nat.le_trans hlen hle) (by simp)
      · next hc =>
        cases h
        exact ⟨c :: cs, rfl, if_neg hc⟩

/-- Blanks are passed over to the same place. -/
theorem skips_skipBlanks (flags : Flags) : Skips (skipBlanks flags) where
  suffix cs := by
    rw [skipBlanks.eq_def]
    split
    · exact List.suffix_rfl
    · next rest =>
      split
      · have hrest := (List.dropWhile_suffix Text.isBlank).trans ((skips_spaced flags).suffix rest)
        exact hrest.trans (List.suffix_cons _ _)
      · exact List.suffix_rfl
  closing cs := by
    cases cs with
    | nil =>
      have hblank : Text.isBlank ')' = false := by decide
      exact .inl (by simp [skipBlanks, closing, hblank])
    | cons c cs =>
      rw [List.cons_append, skipBlanks, skipBlanks]
      split
      · rcases (skips_spaced flags).closing cs with heq | hnil
        · exact .inl (by rw [heq, dropBlanks_append])
        · exact .inr (by rw [hnil, List.dropWhile_nil])
      · exact .inl rfl

/-- The digits of a number, with blanks in front of them. -/
def digitsOf (flags : Flags) : Reader (List Char) :=
  fun cs => some (digits flags cs.length (cs.dropWhile Text.isBlank))

/-- Digits are read the same. -/
theorem reads_digitsOf (flags : Flags) : Reads (digitsOf flags) where
  suffix {cs ds rest} h := by
    have hsuffix := suffix_digits flags cs.length (cs.dropWhile Text.isBlank)
    rw [Option.some.inj h] at hsuffix
    exact hsuffix.trans (List.dropWhile_suffix _)
  closing {cs ds rest} h hlen := by
    have hle : (cs.dropWhile Text.isBlank).length ≤ cs.length := (List.dropWhile_suffix _).length_le
    have hread := Option.some.inj h
    rw [dropBlanks_append] at hread
    obtain ⟨r, hr, halone⟩ := digits_closing (by simp; omega) hle hread hlen
    exact ⟨r, hr, .inl (congrArg some halone)⟩

/-- A number is read the same. -/
theorem reads_decimal (flags : Flags) : Reads (decimal flags) := by
  have hnumber (ds : List Char) : Reads fun rest =>
      if ds.isEmpty ∨ Decimal.twoTo 32 ≤ ds.foldl (fun n c => n * 10 + (c.toNat - 48)) 0 then none
      else some (ds.foldl (fun n c => n * 10 + (c.toNat - 48)) 0, skipBlanks flags rest) :=
    .ite .none (ReadsOr.skip (.pure _) (skips_skipBlanks flags))
  have hread : Reads fun cs => digitsOf flags cs >>= fun x =>
      if x.1.isEmpty ∨ Decimal.twoTo 32 ≤ x.1.foldl (fun n c => n * 10 + (c.toNat - 48)) 0 then none
      else some (x.1.foldl (fun n c => n * 10 + (c.toNat - 48)) 0, skipBlanks flags x.2) :=
    .bind (reads_digitsOf flags) hnumber
  exact hread

/-- The upper bound of a repetition, which may be left out, up to the closing brace. -/
def upperBound (flags : Flags) (least : Nat) (cs : List Char) :
    Option ((Nat × Option Nat) × List Char) :=
  if cs.head? = some '}' then some ((least, none), cs.drop 1)
  else decimal flags cs >>= fun x =>
    if x.2.head? = some '}' then
      if least ≤ x.1 then some ((least, some x.1), x.2.drop 1) else none
    else none

/-- What follows on the lower bound of a repetition. -/
def boundsEnd (flags : Flags) (least : Nat) (cs : List Char) :
    Option ((Nat × Option Nat) × List Char) :=
  if cs.head? = some '}' then some ((least, some least), cs.drop 1)
  else if cs.head? = some ',' then upperBound flags least (skipSpaced flags (cs.drop 1))
  else none

/-- An upper bound that is not left out is a number in front of a brace. -/
theorem upperBound_cons {c : Char} (hc : c ≠ '}') (least : Nat) (cs : List Char) :
    upperBound flags least (c :: cs) = decimal flags (c :: cs) >>= fun x => match x with
      | (most, '}' :: rest) => if least ≤ most then some ((least, some most), rest) else none
      | _ => none := by
  rw [upperBound, List.head?_cons, if_neg fun h => hc (Option.some.inj h)]
  congr 1
  funext ⟨most, rest⟩
  rcases rest with _ | ⟨d, rest⟩
  · rfl
  by_cases hd : d = '}'
  · subst hd
    rfl
  · simp [hd]

/-- The bounds of a repetition are a number and what follows on it. -/
theorem bounds_eq (flags : Flags) (cs : List Char) : bounds flags cs =
    decimal flags (skipSpaced flags cs) >>= fun x => boundsEnd flags x.1 x.2 := by
  rw [bounds]
  congr 1
  funext ⟨least, rest⟩
  rcases rest with _ | ⟨c, rest⟩
  · rfl
  by_cases hbrace : c = '}'
  · subst hbrace
    rfl
  by_cases hcomma : c = ','
  · subst hcomma
    simp only [boundsEnd, List.head?_cons, Option.some.injEq, Char.reduceEq, if_false, if_true,
      List.drop_one, List.tail_cons]
    rcases skipSpaced flags rest with _ | ⟨d, rest⟩
    · rfl
    by_cases hd : d = '}'
    · subst hd
      rfl
    rw [upperBound_cons hd]
    split
    · next h => exact absurd (List.cons.inj h).1 hd
    · rfl
  · simp [boundsEnd, hbrace, hcomma]

/-- The bounds of a repetition are read the same. -/
theorem reads_bounds (flags : Flags) : Reads (bounds flags) := by
  have hmost (least most : Nat) : Reads fun rest : List Char =>
      if rest.head? = some '}' then
        if least ≤ most then some ((least, some most), rest.drop 1) else none
      else none := by
    have hend : Reads fun rest : List Char =>
        if least ≤ most then some ((least, some most), rest) else none := .ite (.pure _) .none
    exact .ite_head (by decide) hend .none
  have hupper (least : Nat) : Reads (upperBound flags least) :=
    .ite_head (by decide) (.pure _) (.bind (reads_decimal flags) (hmost least))
  have hend (least : Nat) : Reads (boundsEnd flags least) :=
    .ite_head (by decide) (.pure _)
      (.ite_head (by decide) ((hupper least).skip (skips_spaced flags)) .none)
  refine ReadsOr.congr ?_ (bounds_eq flags)
  exact .bind ((reads_decimal flags).skip (skips_spaced flags)) hend

/-- The closing bracket is no number. -/
theorem bounds_eq_none (h : skipSpaced flags cs = closing) : bounds flags cs = none := by
  have hblank : Text.isBlank ')' = false := by decide
  have hdigit : ')'.isDigit = false := by decide
  have hnone : decimal flags closing = none := by simp [decimal, closing, digits, hblank, hdigit]
  rw [bounds, h, hnone]
  rfl

/-! ## Switches and names -/

/-- The letters of switches go up to a colon or a bracket, for which the closing bracket is taken if
neither stands in the text. -/
theorem reads_switches (seen : List Char) (on : Bool) (f : Flags) :
    ReadsOr (fun _ r => r = []) (switches seen on f) := by
  constructor
  · intro cs f' rest h
    induction cs generalizing seen on f with
    | nil => cases h
    | cons c cs ih =>
      rw [switches] at h
      split_ifs at h
      · cases h
        exact List.suffix_rfl
      · exact (ih _ _ _ h).trans (List.suffix_cons _ _)
      · obtain ⟨f', -, h⟩ := Option.bind_eq_some_iff.1 h
        exact (ih _ _ _ h).trans (List.suffix_cons _ _)
  · intro cs f' rest h hlen
    induction cs generalizing seen on f with
    | nil =>
      -- the closing bracket ends the switches, which nothing else did
      rw [List.nil_append, closing, switches, if_pos (.inr rfl)] at h
      split at h
      · cases h
      · cases h
        exact ⟨[], rfl, .inr rfl⟩
    | cons c cs ih =>
      rw [List.cons_append, switches] at h
      rw [switches]
      split at h
      · next hend =>
        rw [if_pos hend]
        split at h
        · cases h
        · next hhyphen =>
          cases h
          exact ⟨c :: cs, rfl, .inl (if_neg hhyphen)⟩
      · next hend =>
        rw [if_neg hend]
        split at h
        · cases h
        · next hseen =>
          rw [if_neg hseen]
          split at h
          · next hhyphen =>
            rw [if_pos hhyphen]
            exact ih _ _ _ h
          · next hhyphen =>
            rw [if_neg hhyphen]
            obtain ⟨f', hset, h⟩ := Option.bind_eq_some_iff.1 h
            obtain ⟨r, hr, halone⟩ := ih _ _ _ h
            exact ⟨r, hr, halone.imp_left fun halone => Option.bind_eq_some_iff.2
              ⟨f', hset, halone⟩⟩

/-- The name of a group is not empty and ends with an angle. -/
theorem groupName_eq (cs : List Char) : groupName cs = match (cs.span (· != '>')).1 with
    | [] => none
    | c :: name => match (cs.span (· != '>')).2 with
      | [] => none
      | _ :: rest =>
        if (c == '_' || nameLetters.has c) && name.all (fun c =>
          c == '_' || c == '.' || c == '[' || c == ']' || nameCharacters.has c) then
          some (String.ofList (c :: name), rest)
        else none := by
  rw [groupName]
  rcases cs.span (· != '>') with ⟨_ | ⟨c, name⟩, _ | ⟨d, rest⟩⟩ <;> rfl

/-- The name of a group is read the same. -/
theorem reads_groupName : Reads groupName where
  suffix {cs name rest} h := by
    rw [groupName_eq, List.span_eq_takeWhile_dropWhile] at h
    have hdrop : cs.dropWhile (· != '>') <:+ cs := List.dropWhile_suffix _
    split at h
    · cases h
    · split at h
      · cases h
      · next d tail heq =>
        rw [show cs.dropWhile (· != '>') = d :: tail from heq] at hdrop
        split at h
        · cases h
          exact (List.suffix_cons _ _).trans hdrop
        · cases h
  closing {cs name rest} h hlen := by
    rw [groupName_eq, span_append (by decide)] at h
    cases hdrop : cs.dropWhile (· != '>') with
    | nil =>
      -- no angle ends the name, neither in the text nor in the closing bracket
      rw [hdrop, if_pos rfl] at h
      split at h
      · cases h
      · cases h
    | cons d tail =>
      rw [hdrop, if_neg (List.cons_ne_nil _ _)] at h
      split at h
      · cases h
      · next c name htake =>
        dsimp only [List.cons_append] at h
        split at h
        · next hname =>
          cases h
          refine ⟨tail, rfl, .inl ?_⟩
          rw [groupName_eq, List.span_eq_takeWhile_dropWhile, hdrop,
            show cs.takeWhile (· != '>') = c :: name from htake]
          exact if_pos hname
        · cases h

/-! ## The start of a group -/

/-- The name of a counted group, after its opening angle. -/
def groupNamed (ctx : Context) : Reader GroupStart :=
  fun cs => groupName cs >>= fun x =>
    if ctx.names.contains x.1 then none
    else some (.counted { ctx with names := x.1 :: ctx.names }, x.2)

/-- What the switches of a group say, with what ends them. -/
def switched (ctx : Context) (f : Flags) : Reader GroupStart
  | ')' :: after => some (.switches f, after)
  | _ :: after => some (.opened none { ctx with flags := f }, after)
  | [] => none

/-- A group that is not counted, or switches alone, which have to be there. -/
def groupSwitches (ctx : Context) (cs : List Char) : Option (GroupStart × List Char) :=
  if cs.head? = some ')' then none
  else switches [] true ctx.flags cs >>= fun x => switched ctx x.1 x.2

/-- What follows on an angle behind the mark of a group. -/
def groupAngle (ctx : Context) (cs : List Char) : Option (GroupStart × List Char) :=
  if cs.head? = some '=' then none
  else if cs.head? = some '!' then none
  else groupNamed ctx cs

/-- What follows on the mark of a group that is special. -/
def groupMarked (ctx : Context) (cs : List Char) : Option (GroupStart × List Char) :=
  if cs.head? = some '=' then none
  else if cs.head? = some '!' then none
  else if cs.head? = some '<' then groupAngle ctx (cs.drop 1)
  else if cs.head? = some 'P' then
    if (cs.drop 1).head? = some '<' then groupNamed ctx ((cs.drop 1).drop 1) else none
  else groupSwitches ctx cs

/-- A group that does not begin with its mark is counted. -/
theorem groupStart_eq (ctx : Context) (cs : List Char) : groupStart ctx cs =
    if (skipSpaced ctx.flags cs).head? = some '?' then
      groupMarked ctx ((skipSpaced ctx.flags cs).drop 1)
    else some (.counted ctx, skipSpaced ctx.flags cs) := by
  rw [groupStart]
  cases hs : skipSpaced ctx.flags cs with
  | nil => rfl
  | cons c s =>
    dsimp only
    split
    · next h => cases h; rfl
    · next h => cases h; rfl
    · next h => cases h; rfl
    · next h => cases h; rfl
    · next h => cases h; rfl
    · next hequal hnot h =>
      cases h
      have hangle : ∀ rest : List Char, (∀ tail, rest = '=' :: tail → False) →
          (∀ tail, rest = '!' :: tail → False) → groupAngle ctx rest = groupNamed ctx rest :=
        fun rest hequal hnot => (if_neg (head?_ne hequal)).trans (if_neg (head?_ne hnot))
      exact (hangle _ hequal hnot).symm
    · next hequal hnot _ _ hnamed hangle h =>
      cases h
      rw [List.head?_cons, if_pos rfl, List.drop_one, List.tail_cons, groupMarked,
        if_neg (head?_ne hequal), if_neg (head?_ne hnot), if_neg (head?_ne hangle)]
      by_cases hletter : s.head? = some 'P'
      · obtain ⟨tail, rfl⟩ := List.head?_eq_some_iff.1 hletter
        have htail : tail.head? ≠ some '<' :=
          head?_ne fun rest hrest => hnamed rest (congrArg _ hrest)
        rw [if_pos hletter, List.drop_one, List.tail_cons, if_neg htail]
        rfl
      rw [if_neg hletter, groupSwitches]
      by_cases hbracket : s.head? = some ')'
      · obtain ⟨tail, rfl⟩ := List.head?_eq_some_iff.1 hbracket
        rfl
      rw [if_neg hbracket]
      congr 1
      funext ⟨f, rest⟩
      rcases rest with _ | ⟨d, rest⟩
      · rfl
      by_cases hd : d = ')'
      · subst hd
        exact if_neg hbracket
      · simp [switched]
    · next hmark =>
      have hc : (c :: s).head? ≠ some '?' := head?_ne hmark
      rw [if_neg hc]
      rfl

/-- The start of a named group is read the same. -/
theorem reads_groupNamed (ctx : Context) : Reads (groupNamed ctx) := by
  have hnew (name : String) : Reads fun rest => if ctx.names.contains name then none
      else some (GroupStart.counted { ctx with names := name :: ctx.names }, rest) :=
    .ite .none (.pure _)
  exact .bind reads_groupName hnew

/-- What ends switches is read the same. -/
theorem reads_switched (ctx : Context) (f : Flags) : Reads (switched ctx f) := by
  refine .cons rfl fun c => ?_
  by_cases hc : c = ')'
  · subst hc
    exact .pure _
  · refine (ReadsOr.pure (.opened none { ctx with flags := f })).congr fun cs => ?_
    simp [switched]

/-- Switches are read the same. -/
theorem reads_groupSwitches (ctx : Context) : Reads (groupSwitches ctx) := by
  refine .unless_head (.bind_of_short (reads_switches [] true ctx.flags) (reads_switched ctx) ?_)
  rintro f r start rest rfl h
  cases h
  decide

/-- The start of a group is read the same. -/
theorem reads_groupStart (ctx : Context) : Reads (groupStart ctx) := by
  have hangle : Reads (groupAngle ctx) := .unless_head (.unless_head (reads_groupNamed ctx))
  have hletter : Reads fun cs : List Char =>
      if cs.head? = some '<' then groupNamed ctx (cs.drop 1) else none :=
    .ite_head (by decide) (reads_groupNamed ctx) .none
  have hmarked : Reads (groupMarked ctx) :=
    .unless_head (.unless_head (.ite_head (by decide) hangle
      (.ite_head (by decide) hletter (reads_groupSwitches ctx))))
  have hread : Reads fun s : List Char => if s.head? = some '?' then groupMarked ctx (s.drop 1)
      else some (.counted ctx, s) := .ite_head (by decide) hmarked (.pure _)
  exact (hread.skip (skips_spaced ctx.flags)).congr (groupStart_eq ctx)

end

end Wiring.Pattern
