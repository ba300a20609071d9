import PartitionHost.Proofs.Json.Grammar

/-!
# Layout

White space may stand in front of any token and behind the last. Wherever it stands, the tokens of a valid value are
read back as that value (`Value.ofBytes?_of_written`), and where anything else follows an array or an object the
text is no value at all (`Value.ofBytes?_append_of_written`).
-/

namespace PartitionHost.Json

def AreSpaces (bs : Bytes) : Prop := ∀ b ∈ bs, isSpace b = true

instance : DecidablePred AreSpaces := fun _ => decidable_of_iff _ List.all_eq_true

/-- The texts that consist of these tokens and of white space between them. -/
inductive Laid : List Token → Bytes → Prop where
  | done {space : Bytes} (hspace : AreSpaces space) : Laid [] space
  | token {t : Token} {ts : List Token} {space bs : Bytes} (hspace : AreSpaces space) (h : Laid ts bs) :
      Laid (t :: ts) (space ++ (t.bytes ++ bs))

theorem laid_flatMap {space : Bytes} (hspace : AreSpaces space) (ts : List Token) :
    Laid ts (ts.flatMap fun t => space ++ t.bytes) := by
  induction ts with
  | nil => exact .done nofun
  | cons t ts ih =>
      rw [List.flatMap_cons, List.append_assoc]
      exact .token hspace ih

theorem Value.laid_bytes (v : Value) : Laid v.tokens v.bytes :=
  laid_flatMap (nofun : AreSpaces []) v.tokens

namespace Token

variable {t : Token} {ts : List Token} {bs extra space : Bytes}

theorem ofBytes?_spaces (hspace : AreSpaces space) (rest : Bytes) :
    ofBytes? (space ++ rest) = ofBytes? rest := by
  induction space with
  | nil => rfl
  | cons b space ih =>
      rw [List.cons_append, ofBytes?, if_pos (hspace b List.mem_cons_self)]
      exact ih fun b hb => hspace b (List.mem_cons_of_mem _ hb)

theorem breaks_of_isSpace {b : UInt8} (h : isSpace b = Bool.true) (rest : Bytes) :
    Breaks (b :: rest) := by
  rintro _ ⟨⟩
  simp only [isSpace, Bool.or_eq_true, beq_iff_eq] at h
  rcases h with ((rfl | rfl) | rfl) | rfl <;> decide

theorem breaks_of_isMark (h : t.isMark = Bool.true) (rest : Bytes) : Breaks (t.bytes ++ rest) := by
  cases t with
  | openArray | closeArray | openObject | closeObject | comma | colon => rintro _ ⟨⟩; decide
  | _ => cases h

theorem breaks_spaces (hspace : AreSpaces space) {rest : Bytes} (h : Breaks rest) :
    Breaks (space ++ rest) := by
  cases space with
  | nil => exact h
  | cons b space => exact breaks_of_isSpace (hspace b List.mem_cons_self) _

/-- In front of a mark no word or numeral goes on, nor at the end if it does not go on there. -/
theorem breaks_of_laid (h : Laid ts bs) (hmark : ∀ t, ts.head? = some t → t.isMark = Bool.true)
    (hextra : ts = [] → Breaks extra) : Breaks (bs ++ extra) := by
  cases h with
  | done hspace => exact breaks_spaces hspace (hextra rfl)
  | @token t ts space bs hspace h =>
      rw [List.append_assoc, List.append_assoc]
      exact breaks_spaces hspace (breaks_of_isMark (hmark t rfl) _)

/-- Tidy tokens are read back wherever white space stands between them, in front of any further text. -/
theorem ofBytes?_of_laid (hts : Tidy ts) (h : Laid ts bs)
    (hlast : ∀ t, ts.getLast? = some t → t.isMark = Bool.true ∨ Breaks extra) :
    ofBytes? (bs ++ extra) = (ofBytes? extra).map (ts ++ ·) := by
  induction h with
  | done hspace =>
      rw [ofBytes?_spaces hspace]
      simp
  | @token t ts space bs hspace h ih =>
      obtain ⟨ht, hnext, hts⟩ := hts
      have hbreaks : t.isMark = Bool.true ∨ Breaks (bs ++ extra) := by
        rcases hnext with hmark | hmark
        · exact .inl hmark
        · cases ts with
          | nil => exact (hlast t rfl).imp_right fun hextra => breaks_of_laid h hmark fun _ => hextra
          | cons u ts => exact .inr (breaks_of_laid h hmark nofun)
      have hrest : ofBytes? (bs ++ extra) = (ofBytes? extra).map (ts ++ ·) := by
        refine ih hts fun u hu => hlast u ?_
        rw [List.getLast?_cons, hu]
        rfl
      rw [List.append_assoc, List.append_assoc, ofBytes?_spaces hspace, ofBytes?_append ht hbreaks, hrest,
        Option.map_map]
      rfl

theorem areSpaces_of_ofBytes?_eq_nil (h : ofBytes? bs = some []) : AreSpaces bs := by
  induction bs with
  | nil => exact nofun
  | cons b bs ih =>
      rw [ofBytes?] at h
      split at h
      · rename_i hb
        intro b' hb'
        rcases List.mem_cons.1 hb' with rfl | hb'
        · exact hb
        · exact ih h b' hb'
      · split at h
        · cases h
        · obtain ⟨ts, -, h⟩ := Option.map_eq_some_iff.1 h
          cases h

end Token

namespace Value

variable {v : Value} {bs extra : Bytes}

/-- The texts of a valid value, with white space anywhere between its tokens. -/
structure Written (v : Value) (bs : Bytes) : Prop where
  valid : v.IsValid
  laid : Laid v.tokens bs

def isOpen : Value → Bool
  | .array _ | .object _ => true
  | _ => false

theorem ofBytes?_of_written (h : v.Written bs) : ofBytes? bs = some v := by
  have hend : Token.Breaks [] := fun b hb => nomatch hb
  have hread := Token.ofBytes?_of_laid h.valid.isSound.tidy h.laid fun _ _ => .inr hend
  rw [List.append_nil] at hread
  have hnil : Token.ofBytes? [] = some [] := by rw [Token.ofBytes?]
  rw [ofBytes?, hread, hnil, Option.map_some, Option.bind_some, List.append_nil, ofTokens?_tokens]

theorem getLast?_itemTokens (vs : List Value) : (itemTokens vs).getLast? = some .closeArray := by
  match vs with
  | [] => rfl
  | [v] => rw [itemTokens, List.getLast?_append]; rfl
  | v :: w :: rest =>
      rw [itemTokens_cons_cons, List.getLast?_append, List.getLast?_cons, getLast?_itemTokens (w :: rest)]
      rfl

theorem getLast?_memberTokens (ms : List (Bytes × Value)) :
    (memberTokens ms).getLast? = some .closeObject := by
  match ms with
  | [] => rfl
  | [(name, v)] =>
      rw [memberTokens, List.getLast?_append]
      rfl
  | (name, v) :: m :: rest =>
      rw [memberTokens_cons_cons, List.getLast?_append, List.getLast?_cons, getLast?_memberTokens (m :: rest)]
      rfl

theorem isMark_of_getLast? (h : v.isOpen = true) {t : Token} (ht : v.tokens.getLast? = some t) :
    t.isMark = true := by
  cases v with
  | array items =>
      rw [tokens, List.getLast?_cons, getLast?_itemTokens] at ht
      cases ht
      rfl
  | object members =>
      rw [tokens, List.getLast?_cons, getLast?_memberTokens] at ht
      cases ht
      rfl
  | _ => cases h

theorem ofBytes?_append_of_written (h : v.Written bs) (hopen : v.isOpen = true) (hextra : ¬ AreSpaces extra) :
    ofBytes? (bs ++ extra) = none := by
  have hlast : ∀ t, v.tokens.getLast? = some t → t.isMark = true ∨ Token.Breaks extra :=
    fun _ ht => .inl (isMark_of_getLast? hopen ht)
  have hread := Token.ofBytes?_of_laid h.valid.isSound.tidy h.laid hlast
  rw [ofBytes?, hread]
  cases hmore : Token.ofBytes? extra with
  | none => rfl
  | some ts =>
      cases ts with
      | nil => exact absurd (Token.areSpaces_of_ofBytes?_eq_nil hmore) hextra
      | cons t ts =>
          rw [Option.map_some, Option.bind_some, ofTokens?, resume?_tokens v]
          rfl

end Value

end PartitionHost.Json
