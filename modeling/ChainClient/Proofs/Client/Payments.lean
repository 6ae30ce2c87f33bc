import ChainClient.Client.Params
import ChainClient.Proofs.Address.Text
import ChainClient.Proofs.Coin.Lists
import ChainClient.Proofs.Text.Words

/-!
# Payments line by line

A text of payments is read row by row: every row of the trimmed text has two fields, a receiver and a list of coins, and becomes one payment. So no row is skipped and none is read twice, and a text with a row of any other number of fields, an empty one among them, is refused as a whole. Payments that are written one on a line, with whatever white space around the fields and the lines, are read back.
-/

namespace ChainClient

open Text Transfer

namespace Params

/-- The rows of a text: what stands between the line feeds of the trimmed text. -/
def rows (text : String) : List (List Char) := splitOn '\n' (trimChars text.toList)

/-! ### Reading -/

theorem checkAccount_eq_ok_iff {name text : String} {address : AccountAddress} :
    checkAccount name text = .ok address ↔ Address.parse text = .ok address := by
  rw [checkAccount]
  by_cases hblank : Text.blank text
  · rw [if_pos hblank, Address.parse, if_pos hblank]
    simp only [reduceCtorEq]
  · rw [if_neg hblank, mapError_eq_ok]

/-- The payment that fields are read as: they are a receiver and coins, and nothing else. -/
def Pays (fields : List (List Char)) (payment : Payment) : Prop :=
  ∃ receiver coins, fields = [receiver, coins] ∧ Address.parse (String.ofList receiver) = .ok payment.receiver ∧
    Coin.parseList (String.ofList coins) = .ok payment.coins

theorem payment_eq_ok_iff {line : List Char} {payment : Payment} :
    (match words line with
      | [receiver, coins] => do
        let receiver ← checkAccount "to" (String.ofList receiver)
        let coins ← (Coin.parseList (String.ofList coins)).mapError .value
        return { receiver, coins }
      | _ => throw (.invalidParam "transfers" (.transferLine (String.ofList line))) : Except ClientError Payment) =
        .ok payment ↔ Pays (fields line) payment := by
  rw [← words_eq_fields, Pays]
  split
  next receiver coins hwords =>
    simp only [hwords, bind_eq_ok, checkAccount_eq_ok_iff, mapError_eq_ok]
    constructor
    · rintro ⟨address, haddress, list, hlist, heq⟩
      obtain rfl := Except.ok.inj heq
      exact ⟨receiver, coins, rfl, haddress, hlist⟩
    · rintro ⟨_, _, hfields, haddress, hlist⟩
      cases hfields
      exact ⟨_, haddress, _, hlist, rfl⟩
  next hwords =>
    refine iff_of_false nofun ?_
    rintro ⟨receiver, coins, hfields, -⟩
    exact hwords receiver coins hfields

theorem parsePayments_of_blank {text : String} (h : Text.blank text) : parsePayments text = .ok [] := by
  rw [parsePayments, trimChars_eq_nil_iff.2 h]
  rfl

/-- A text that is not blank is read row by row. -/
theorem parsePayments_eq_ok_iff {text : String} (h : ¬ Text.blank text) {payments : List Payment} :
    parsePayments text = .ok payments ↔ List.Forall₂ (fun row payment => Pays (fields row) payment) (rows text) payments := by
  have hlines := @map_fields_lines text.toList fun hnil => h (trimChars_eq_nil_iff.1 hnil)
  have hrows : List.Forall₂ (fun line payment => Pays (fields line) payment) (lines (trimChars text.toList)) payments ↔
      List.Forall₂ (fun row payment => Pays (fields row) payment) (rows text) payments := by
    rw [← List.forall₂_map_left_iff, hlines, List.forall₂_map_left_iff, rows]
  rw [← hrows]
  refine mapM_eq_ok_iff.trans ⟨fun hread => hread.imp fun _ _ => payment_eq_ok_iff.1,
    fun hread => hread.imp fun _ _ => payment_eq_ok_iff.2⟩

/-- Some coins, in ascending order of their denominations, which are all valid. -/
structure Sound (payment : Payment) : Prop where
  filled : payment.coins ≠ []
  ascending : Coin.Ascending payment.coins
  valid : ∀ coin ∈ payment.coins, Coin.validDenom coin.denom.toList

theorem Pays.sound {row : List Char} {payment : Payment} (h : Pays (fields row) payment) : Sound payment := by
  obtain ⟨receiver, coins, hfields, -, hcoins⟩ := h
  have hmem : coins ∈ fields row := by
    rw [hfields]
    exact List.mem_cons_of_mem receiver List.mem_cons_self
  obtain ⟨hfilled, hvisible⟩ := visible_of_mem_fields hmem
  obtain ⟨c, hc⟩ := List.exists_mem_of_ne_nil coins hfilled
  have hblank : ¬ Text.blank (String.ofList coins) :=
    not_blank_of_visible ⟨c, by rwa [String.toList_ofList], hvisible c hc⟩
  exact ⟨Coin.ne_nil_of_parseList hblank hcoins, Coin.ascending_of_parseList hcoins, Coin.validDenom_of_parseList hcoins⟩

theorem sound_of_parsePayments {text : String} {payments : List Payment} (h : parsePayments text = .ok payments) :
    ∀ payment ∈ payments, Sound payment := by
  intro payment hpayment
  by_cases hblank : Text.blank text
  · rw [← Except.ok.inj ((parsePayments_of_blank hblank).symm.trans h)] at hpayment
    exact absurd hpayment List.not_mem_nil
  · obtain ⟨row, -, hpays⟩ := exists_of_mem_right ((parsePayments_eq_ok_iff hblank).1 h) hpayment
    exact hpays.sound

/-- A row that does not have two fields spoils the text. -/
theorem exists_error_of_row {text : String} (hblank : ¬ Text.blank text) {row : List Char} (hrow : row ∈ rows text)
    (h : (fields row).length ≠ 2) : ∃ e, parsePayments text = .error e := by
  cases hparse : parsePayments text with
  | error e => exact ⟨e, rfl⟩
  | ok payments =>
    obtain ⟨payment, -, receiver, coins, hfields, -⟩ := exists_of_mem_left ((parsePayments_eq_ok_iff hblank).1 hparse) hrow
    rw [hfields] at h
    exact absurd rfl h

/-! ### Writing -/

/-- White space that ends no line. -/
def Inline (cs : List Char) : Prop := ∀ c ∈ cs, isBlank c ∧ c ≠ '\n'

/-- A row for a payment: the text of the address and the texts of the coins joined by commas, with white space around them. -/
def RowFor (payment : Payment) (row : List Char) : Prop :=
  ∃ front gap back, Inline front ∧ Inline gap ∧ gap ≠ [] ∧ Inline back ∧
    row = front ++ (payment.receiver.text.toList ++ (gap ++
      ((String.intercalate "," (payment.coins.map Coin.text)).toList ++ back)))

/-- Rows for payments, each but the last ended by a line feed or by a carriage return and a line feed. -/
inductive Written : List Payment → List Char → Prop
  | last {payment row} (hrow : RowFor payment row) : Written [payment] row
  | feed {payment row payments cs} (hrow : RowFor payment row) (hrest : Written payments cs) :
      Written (payment :: payments) (row ++ '\n' :: cs)
  | returned {payment row payments cs} (hrow : RowFor payment row) (hrest : Written payments cs) :
      Written (payment :: payments) (row ++ '\r' :: '\n' :: cs)

theorem Inline.append {cs ds : List Char} (hcs : Inline cs) (hds : Inline ds) : Inline (cs ++ ds) :=
  List.forall_mem_append.2 ⟨hcs, hds⟩

theorem Inline.isBlank {cs : List Char} (h : Inline cs) : ∀ c ∈ cs, isBlank c := fun c hc => (h c hc).1

variable {payment : Payment} {row : List Char}

theorem RowFor.pays (h : RowFor payment row) (hsound : Sound payment) : Pays (fields row) payment := by
  obtain ⟨front, gap, back, hfront, hgap, hfilled, hback, rfl⟩ := h
  obtain ⟨haddress, hreceiver⟩ := payment.receiver.visible_text
  obtain ⟨hlist, hcoins⟩ := Coin.visible_intercalate hsound.valid hsound.filled
  refine ⟨_, _, fields_pair hfront.isBlank hreceiver hgap.isBlank hcoins hback.isBlank ⟨haddress, hfilled, hlist⟩, ?_, ?_⟩
  · rw [String.ofList_toList, Address.parse_text]
  · rw [String.ofList_toList, Coin.parseList_intercalate hsound.ascending hsound.valid]

theorem RowFor.feed_not_mem (h : RowFor payment row) (hsound : Sound payment) : '\n' ∉ row := by
  obtain ⟨front, gap, back, hfront, hgap, -, hback, rfl⟩ := h
  have hword : ∀ {word : List Char}, (∀ c ∈ word, Text.isBlank c = false) → '\n' ∉ word := fun hvisible hmem =>
    absurd (hvisible '\n' hmem) (by decide)
  have hspace : ∀ {space : List Char}, Inline space → '\n' ∉ space := fun hinline hmem => (hinline '\n' hmem).2 rfl
  simp only [List.mem_append, not_or]
  exact ⟨hspace hfront, hword payment.receiver.visible_text.2, hspace hgap,
    hword (Coin.visible_intercalate hsound.valid hsound.filled).2, hspace hback⟩

/-- A carriage return in front of a line feed is white space behind the row. -/
theorem RowFor.concat_return (h : RowFor payment row) : RowFor payment (row ++ ['\r']) := by
  obtain ⟨front, gap, back, hfront, hgap, hfilled, hback, rfl⟩ := h
  have hreturn : Inline ['\r'] := List.forall_mem_singleton.2 ⟨by decide, by decide⟩
  exact ⟨front, gap, back ++ ['\r'], hfront, hgap, hfilled, hback.append hreturn, by simp⟩

variable {payments : List Payment} {cs : List Char}

/-- Written rows hold no other line feeds than those between them. -/
theorem Written.pays (h : Written payments cs) (hsound : ∀ payment ∈ payments, Sound payment) :
    List.Forall₂ (fun row payment => Pays (fields row) payment) (splitOn '\n' cs) payments := by
  -- Both line ends come down to this step: a carriage return is white space of its own row.
  have hcons : ∀ {payment row payments cs}, RowFor payment row → Sound payment →
      List.Forall₂ (fun row payment => Pays (fields row) payment) (splitOn '\n' cs) payments →
      List.Forall₂ (fun row payment => Pays (fields row) payment) (splitOn '\n' (row ++ '\n' :: cs))
        (payment :: payments) := by
    intro payment row payments cs hrow hpayment hrest
    rw [splitOn_append_cons, splitOn_of_not_mem (hrow.feed_not_mem hpayment), List.singleton_append]
    exact .cons (hrow.pays hpayment) hrest
  induction h with
  | last hrow =>
    have hpayment := List.forall_mem_singleton.1 hsound
    rw [splitOn_of_not_mem (hrow.feed_not_mem hpayment)]
    exact .cons (hrow.pays hpayment) .nil
  | feed hrow hrest ih =>
    obtain ⟨hpayment, hpayments⟩ := List.forall_mem_cons.1 hsound
    exact hcons hrow hpayment (ih hpayments)
  | @returned payment row payments cs hrow hrest ih =>
    obtain ⟨hpayment, hpayments⟩ := List.forall_mem_cons.1 hsound
    have h := hcons hrow.concat_return hpayment (ih hpayments)
    rwa [List.append_assoc] at h

/-! ### Trimming -/

theorem RowFor.visible (h : RowFor payment row) : ∃ c ∈ row, Text.isBlank c = false := by
  obtain ⟨front, gap, back, -, -, -, -, rfl⟩ := h
  obtain ⟨haddress, hreceiver⟩ := payment.receiver.visible_text
  obtain ⟨c, hc⟩ := List.exists_mem_of_ne_nil _ haddress
  exact ⟨c, List.mem_append_right front (List.mem_append_left _ hc), hreceiver c hc⟩

theorem RowFor.dropWhile (h : RowFor payment row) : RowFor payment (row.dropWhile isBlank) := by
  obtain ⟨front, gap, back, hfront, hgap, hfilled, hback, rfl⟩ := h
  refine ⟨[], gap, back, List.forall_mem_nil _, hgap, hfilled, hback, ?_⟩
  obtain ⟨haddress, hreceiver⟩ := payment.receiver.visible_text
  obtain ⟨c, rest, htext⟩ := List.exists_cons_of_ne_nil haddress
  rw [htext] at hreceiver
  rw [List.dropWhile_append_of_pos hfront.isBlank, htext, List.cons_append, 
    List.dropWhile_cons_of_neg (by simp [hreceiver c List.mem_cons_self])]
  rfl

theorem RowFor.trimEnd (h : RowFor payment row) (hsound : Sound payment) : RowFor payment (trimEnd row) := by
  obtain ⟨front, gap, back, hfront, hgap, hfilled, hback, rfl⟩ := h
  obtain ⟨hlist, hcoins⟩ := Coin.visible_intercalate hsound.valid hsound.filled
  obtain ⟨c, hc⟩ := List.exists_mem_of_ne_nil _ hlist
  refine ⟨front, gap, [], hfront, hgap, hfilled, List.forall_mem_nil _, ?_⟩
  have hvisible : ∃ d ∈ (String.intercalate "," (payment.coins.map Coin.text)).toList ++ back, Text.isBlank d = false :=
    ⟨c, List.mem_append_left back hc, hcoins c hc⟩
  have hcut := trimEnd_append_of_visible (front ++ (payment.receiver.text.toList ++ gap)) hvisible
  rw [trimEnd_append_right hcoins hback.isBlank] at hcut
  simpa only [List.append_assoc, List.append_nil] using hcut

theorem Written.visible (h : Written payments cs) : ∃ c ∈ cs, Text.isBlank c = false := by
  cases h with
  | last hrow => exact hrow.visible
  | feed hrow _ | returned hrow _ =>
    obtain ⟨c, hc, hvisible⟩ := hrow.visible
    exact ⟨c, List.mem_append_left _ hc, hvisible⟩

theorem Written.dropWhile (h : Written payments cs) : Written payments (cs.dropWhile isBlank) := by
  cases h with
  | last hrow => exact .last hrow.dropWhile
  | feed hrow hrest => exact dropWhile_append_of_visible hrow.visible _ ▸ .feed hrow.dropWhile hrest
  | returned hrow hrest => exact dropWhile_append_of_visible hrow.visible _ ▸ .returned hrow.dropWhile hrest

theorem Written.trimEnd (h : Written payments cs) (hsound : ∀ payment ∈ payments, Sound payment) :
    Written payments (trimEnd cs) := by
  -- Only the last row ends with the text, and the rows in front of it stay as they are.
  induction h with
  | last hrow => exact .last (hrow.trimEnd (List.forall_mem_singleton.1 hsound))
  | @feed _ row _ cs hrow hrest ih =>
    have hcut := trimEnd_append_of_visible (row ++ ['\n']) hrest.visible
    rw [List.append_assoc, List.append_assoc] at hcut
    exact hcut ▸ .feed hrow (ih (List.forall_mem_cons.1 hsound).2)
  | @returned _ row _ cs hrow hrest ih =>
    have hcut := trimEnd_append_of_visible (row ++ ['\r', '\n']) hrest.visible
    rw [List.append_assoc, List.append_assoc] at hcut
    exact hcut ▸ .returned hrow (ih (List.forall_mem_cons.1 hsound).2)

/-- Written payments are read back. -/
theorem parsePayments_written (h : Written payments cs) (hsound : ∀ payment ∈ payments, Sound payment)
    {before after : List Char} (hbefore : ∀ c ∈ before, isBlank c) (hafter : ∀ c ∈ after, isBlank c) :
    parsePayments (String.ofList (before ++ (cs ++ after))) = .ok payments := by
  have hrows : rows (String.ofList (before ++ (cs ++ after))) = splitOn '\n' (Text.trimEnd (cs.dropWhile isBlank)) := by
    rw [rows, String.toList_ofList, trimChars_append_left hbefore, trimChars_append_right hafter, trimEnd_dropWhile]
  have hblank : ¬ Text.blank (String.ofList (before ++ (cs ++ after))) := by
    obtain ⟨c, hc, hvisible⟩ := h.visible
    refine not_blank_of_visible ⟨c, ?_, hvisible⟩
    rw [String.toList_ofList]
    exact List.mem_append_right before (List.mem_append_left after hc)
  rw [parsePayments_eq_ok_iff hblank, hrows]
  exact (h.dropWhile.trimEnd hsound).pays hsound

/-- A blank row between two parts of a text spoils it. -/
theorem exists_error_of_gap {before gap after : List Char} (hbefore : ∃ c ∈ before, Text.isBlank c = false)
    (hafter : ∃ c ∈ after, Text.isBlank c = false) (hgap : Inline gap) :
    ∃ e, parsePayments (String.ofList (before ++ '\n' :: (gap ++ '\n' :: after))) = .error e := by
  have hrow : gap ∈ rows (String.ofList (before ++ '\n' :: (gap ++ '\n' :: after))) := by
    rw [rows, String.toList_ofList]
    exact mem_splitOn_trimChars hbefore hafter fun hmem => (hgap '\n' hmem).2 rfl
  refine exists_error_of_row ?_ hrow (by rw [fields_of_blank hgap.isBlank]; decide)
  obtain ⟨c, hc, hvisible⟩ := hbefore
  refine not_blank_of_visible ⟨c, ?_, hvisible⟩
  rw [String.toList_ofList]
  exact List.mem_append_left _ hc

/-- **Payments line by line.** Sound payments that are written one on a line, with white space around the fields and around the whole, are read back, all of them and in their order. A text that is not blank is read as payments exactly when each row of the trimmed text has two fields and these are read as the payment in its place; a blank text is read as none. All payments that are read are sound. A row with more or fewer than two fields spoils the text, and so does a blank row in it. -/
theorem payments_line_by_line :
    (∀ payments cs before after, Written payments cs → (∀ payment ∈ payments, Sound payment) →
      (∀ c ∈ before, isBlank c) → (∀ c ∈ after, isBlank c) →
      parsePayments (String.ofList (before ++ (cs ++ after))) = .ok payments) ∧
    (∀ text payments, ¬ Text.blank text → (parsePayments text = .ok payments ↔
      List.Forall₂ (fun row payment => Pays (fields row) payment) (rows text) payments)) ∧
    (∀ text, Text.blank text → parsePayments text = .ok []) ∧
    (∀ text payments, parsePayments text = .ok payments → ∀ payment ∈ payments, Sound payment) ∧
    (∀ text row, ¬ Text.blank text → row ∈ rows text → (fields row).length ≠ 2 → ∃ e, parsePayments text = .error e) ∧
    ∀ before gap after, (∃ c ∈ before, Text.isBlank c = false) → (∃ c ∈ after, Text.isBlank c = false) → Inline gap →
      ∃ e, parsePayments (String.ofList (before ++ '\n' :: (gap ++ '\n' :: after))) = .error e :=
  ⟨fun _ _ _ _ hwritten hsound hbefore hafter => parsePayments_written hwritten hsound hbefore hafter,
    fun _ _ hblank => parsePayments_eq_ok_iff hblank, fun _ => parsePayments_of_blank, fun _ _ => sound_of_parsePayments,
    fun _ _ hblank hrow => exists_error_of_row hblank hrow, fun _ _ _ => exists_error_of_gap⟩

/-- Two payments on lines that end in different ways, and what an empty line between them or a third field does. -/
theorem payments_line_by_line_two :
    let small : Coin := ⟨"okt", ⟨10 ^ 18⟩⟩
    let large : Coin := ⟨"xxb-781", ⟨2 * 10 ^ 18⟩⟩
    let first : Payment := ⟨Address.ofFirst [1, 2], [small]⟩
    let second : Payment := ⟨Address.ofFirst [3], [small, large]⟩
    let row (payment : Payment) : List Char := payment.receiver.text.toList ++ ('\t' ::
      (String.intercalate "," (payment.coins.map Coin.text)).toList)
    let text := String.ofList (" \n".toList ++ ((row first ++ '\r' :: '\n' :: row second) ++ ['\n']))
    parsePayments text = .ok [first, second] ∧ (rows text).length = 2 ∧ Sound second ∧ parsePayments " \n" = .ok [] ∧
      (∃ e, parsePayments "ex1 1okt 2okt" = .error e) ∧
      ∃ e, parsePayments (String.ofList (row first ++ '\n' :: ([] ++ '\n' :: row second))) = .error e := by
  intro small large first second row text
  obtain ⟨hwritten, hrows, hblank, hsound, hfields, hgap⟩ := payments_line_by_line
  have hrow : ∀ payment, RowFor payment (row payment) := fun payment =>
    ⟨[], ['\t'], [], List.forall_mem_nil _, List.forall_mem_singleton.2 (by decide), List.cons_ne_nil _ _,
      List.forall_mem_nil _, by simp [row]⟩
  have hboth : ∀ payment ∈ [first, second], Sound payment := by
    refine List.forall_mem_cons.2 ⟨⟨by decide, List.pairwise_singleton _ _, by decide⟩, List.forall_mem_singleton.2
      ⟨by decide, List.pairwise_pair.2 (by decide), by decide⟩⟩
  have hread : parsePayments text = .ok [first, second] :=
    hwritten _ _ _ _ (.returned (hrow first) (.last (hrow second))) hboth (List.all_eq_true.1 (by decide))
      (List.forall_mem_singleton.2 (by decide))
  have hvisible : ¬ Text.blank text := by
    intro hnone
    rw [hblank text hnone] at hread
    cases hread
  have hthree : "ex1 1okt 2okt".toList ∈ rows "ex1 1okt 2okt" := by decide
  exact ⟨hread, ((hrows text _ hvisible).1 hread).length_eq, hsound text _ hread second (by simp),
    hblank " \n" (by decide), hfields _ _ (by decide) hthree (by decide),
    hgap _ _ _ (hrow first).visible (hrow second).visible (List.forall_mem_nil _)⟩

end Params

end ChainClient
