import LinkHarvest.Proofs.Number.Numeral
import LinkHarvest.Proofs.Text.Cut
import LinkHarvest.Proofs.Text.Visible
import LinkHarvest.Url.Split

/-!
# Taking a URL apart

A URL that is put together from parts is cut into the same parts again, as long as no part holds a
delimiter that would cut it (`Written.split_text`), with its scheme or without it
(`Written.split_reference`). From its network location the user information, the host and the port
are read back as well (`Written.host_parts`, `Written.port_parts`, `Written.userInfo_parts`).
-/

namespace LinkHarvest.Url

variable {c : Char} {t : Text}

/-! ## Characters of the parts -/

/-- A visible character of ASCII that does not end the user information of a URL. -/
def isUserInfoChar (c : Char) : Bool :=
  33 ≤ c.toNat && c.toNat < 128 && !"/?#[]".toList.contains c

/-- A character of a host name in lower case. -/
def isHostChar (c : Char) : Bool := c.isLower || c.isDigit || c == '.' || c == '-'

theorem isUserInfoChar_iff : isUserInfoChar c = true ↔
    (33 ≤ c.toNat ∧ c.toNat < 128) ∧ c ∉ "/?#[]".toList := by
  rw [isUserInfoChar, Bool.and_eq_true, Bool.and_eq_true, decide_eq_true_eq, decide_eq_true_eq,
    Bool.not_eq_true', ← Bool.not_eq_true, List.contains_iff_mem]

theorem isUserInfoChar_of_class {p : Char → Bool} (h : p c = true)
    (hvisible : 33 ≤ c.toNat ∧ c.toNat < 128) (hall : ∀ d ∈ "/?#[]".toList, p d = false) :
    isUserInfoChar c = true := by
  refine isUserInfoChar_iff.mpr ⟨hvisible, fun hmem => ?_⟩
  rw [hall c hmem] at h
  cases h

theorem isUserInfoChar_of_isDigit (h : c.isDigit = true) : isUserInfoChar c = true :=
  isUserInfoChar_of_class h (Text.visible_of_isDigit h) (Text.forall_mem_of_all (by decide))

theorem isHostChar_cases (h : isHostChar c = true) : c.isAlphanum = true ∨ c = '.' ∨ c = '-' := by
  simp only [isHostChar, Bool.or_eq_true, beq_iff_eq] at h
  rcases h with ((h | h) | h) | h
  · exact .inl (Text.isAlphanum_iff.mpr (.inr (.inl h)))
  · exact .inl (Text.isAlphanum_iff.mpr (.inr (.inr h)))
  · exact .inr (.inl h)
  · exact .inr (.inr h)

theorem isUserInfoChar_of_isHostChar (h : isHostChar c = true) : isUserInfoChar c = true := by
  have hvisible : 33 ≤ c.toNat ∧ c.toNat < 128 := by
    rcases isHostChar_cases h with h | rfl | rfl
    · exact Text.visible_of_isAlphanum h
    · decide
    · decide
  exact isUserInfoChar_of_class h hvisible (Text.forall_mem_of_all (by decide))

theorem toLower_of_isHostChar (h : isHostChar c = true) : c.toLower = c := by
  have hupper : ¬('A' ≤ c ∧ c ≤ 'Z') := by
    simp only [isHostChar, Bool.or_eq_true, beq_iff_eq, Text.isLower_iff, Text.isDigit_iff,
      Text.le_iff_toNat, Char.reduceToNat] at h ⊢
    rcases h with ((h | h) | rfl) | rfl
    · omega
    · omega
    · decide
    · decide
  exact dif_neg hupper

theorem visible_of_isSchemeChar (h : isSchemeChar c = true) : 33 ≤ c.toNat ∧ c.toNat < 128 := by
  simp only [isSchemeChar, Bool.or_eq_true, beq_iff_eq] at h
  rcases h with ((h | rfl) | rfl) | rfl
  · exact Text.visible_of_isAlphanum h
  · decide
  · decide
  · decide

theorem colon_not_mem_of_isSchemeChar (h : t.all isSchemeChar = true) : ':' ∉ t := fun hmem =>
  absurd (List.all_eq_true.mp h ':' hmem) (by decide)

theorem cutScheme_append {scheme : Text} (hstart : ∃ c rest, scheme = c :: rest ∧ c.isAlpha = true)
    (hchars : scheme.all isSchemeChar = true) (t : Text) :
    cutScheme (scheme ++ ':' :: t) = (scheme.map Char.toLower, t) := by
  obtain ⟨c, rest, rfl, halpha⟩ := hstart
  have hcut := Text.cut_append_cons (colon_not_mem_of_isSchemeChar hchars) t
  rw [List.cons_append] at hcut ⊢
  rw [cutScheme, hcut]
  dsimp only
  rw [halpha, hchars]
  rfl

theorem checkCompatibility_of_ascii (h : ∀ c ∈ t, c.toNat < 128) :
    checkCompatibility t = .ok () := by
  refine if_neg fun hlike => ?_
  obtain ⟨c, hc, hlike⟩ := List.any_eq_true.mp hlike
  have hall : ∀ n ∈ delimiterLike, 128 ≤ n := by decide
  have hbeyond := hall _ (List.contains_iff_mem.mp hlike)
  have hascii := h c hc
  omega

/-! ## Marked parts -/

/-- A delimiter and what it introduces, if there is anything to introduce. -/
def marked (mark : Char) : Option Text → Text
  | none => []
  | some t => mark :: t

theorem cut_marked {mark : Char} (h : mark ∉ t) (u : Option Text) :
    Text.cut mark (t ++ marked mark u) = (t, u) := by
  cases u with
  | none =>
    rw [marked, List.append_nil]
    exact Text.cut_of_not_mem h
  | some u => exact Text.cut_append_cons h u

/-! ## Host and port -/

theorem mem_marked_port {port : Option Nat} (h : c ∈ marked ':' (port.map Text.ofNat)) :
    c = ':' ∨ c.isDigit = true := by
  cases port with
  | none => cases h
  | some n => exact (List.mem_cons.mp h).imp_right Text.isDigit_ofNat

namespace Parts

variable {p : Parts} {host : Text}

theorem hostPort_of_plain {port : Option Text}
    (h : hostAndPort p.netloc = host ++ marked ':' port) (hbracket : '[' ∉ host ++ marked ':' port)
    (hcolon : ':' ∉ host) : p.hostPort = (host, port.getD []) := by
  unfold hostPort
  dsimp only
  rw [h, Text.cut_of_not_mem hbracket]
  dsimp only
  rw [Text.before, Text.after, cut_marked hcolon]

/-- A host in brackets ends at the closing one. -/
theorem hostPort_of_bracketed {port : Option Text}
    (h : hostAndPort p.netloc = '[' :: (host ++ ']' :: marked ':' port)) (hclose : ']' ∉ host) :
    p.hostPort = (host, port.getD []) := by
  have hport : Text.cut ':' (marked ':' port) = ([], port) := cut_marked List.not_mem_nil port
  unfold hostPort
  dsimp only
  rw [h, Text.cut, if_pos rfl]
  dsimp only
  rw [Text.before_append_cons hclose, Text.after_append_cons hclose, Text.after, hport]

theorem port_of_hostPort {port : Option Nat} (h : p.hostPort.2 = (port.map Text.ofNat).getD [])
    (hle : ∀ n ∈ port, n ≤ 65535) : p.port = .ok port := by
  rw [Parts.port, h]
  dsimp only
  cases port with
  | none => rfl
  | some n =>
    have hle := hle n rfl
    have hdigits : ∀ c ∈ Text.ofNat n, c.isDigit = true := fun c => Text.isDigit_ofNat
    have hlength : (Text.ofNat n).length ≤ 5 :=
      (Nat.length_toDigits_le_iff (by decide) (by decide)).mpr (by omega)
    have hshort : ¬Integer.digitLimit < (Text.ofNat n).length := by
      unfold Integer.digitLimit
      omega
    rw [Option.map_some, Option.getD_some, if_neg (by simp [Text.ofNat_ne_nil]),
      if_neg (by simpa using hdigits), if_neg hshort, Text.filterMap_digit? hdigits,
      Text.ofDigits_ofNat, if_neg (by omega)]

end Parts

/-! ## Written URLs -/

/-- What stands for a part in a URL: an empty part may be missing together with its delimiter. -/
def Shown (shown : Option Text) (part : Text) : Prop := shown = some part ∨ shown = none ∧ part = []

theorem Shown.getD {shown : Option Text} {part : Text} (h : Shown shown part) :
    shown.getD [] = part := by
  rcases h with rfl | ⟨rfl, rfl⟩ <;> rfl

theorem Shown.eq_of_mem {shown : Option Text} {part : Text} (h : Shown shown part)
    (ht : t ∈ shown) : t = part := by
  rcases h with rfl | ⟨rfl, -⟩
  · exact (Option.some.inj ht).symm
  · cases ht

/-- A URL by its parts. No part holds a character that would cut it. -/
structure Written where
  scheme : Text
  userInfo : Option Text
  host : Text
  port : Option Nat
  query : Option Text
  fragment : Option Text
  scheme_start : ∃ c rest, scheme = c :: rest ∧ c.isAlpha = true
  scheme_chars : scheme.all isSchemeChar = true
  userInfo_chars : ∀ u ∈ userInfo, ∀ c ∈ u, isUserInfoChar c = true
  host_chars : ∀ c ∈ host, isHostChar c = true
  port_le : ∀ n ∈ port, n ≤ 65535
  query_visible : ∀ q ∈ query, Text.Visible q
  query_plain : ∀ q ∈ query, '#' ∉ q
  fragment_visible : ∀ f ∈ fragment, Text.Visible f

namespace Written

variable (w : Written)

def place : Text := w.host ++ marked ':' (w.port.map Text.ofNat)

def netloc : Text :=
  match w.userInfo with
  | none => w.place
  | some u => u ++ '@' :: w.place

def text : Text :=
  w.scheme ++ ':' :: '/' :: '/' :: (w.netloc ++ (marked '?' w.query ++ marked '#' w.fragment))

def parts : Parts :=
  ⟨w.scheme.map Char.toLower, w.netloc, [], w.query.getD [], w.fragment.getD []⟩

/-! ### Characters -/

theorem place_cases {w : Written} (h : c ∈ w.place) :
    isHostChar c = true ∨ c.isDigit = true ∨ c = ':' := by
  rcases List.mem_append.mp h with h | h
  · exact .inl (w.host_chars c h)
  · exact .inr (mem_marked_port h).symm

theorem at_not_mem_place : '@' ∉ w.place := by
  intro h
  rcases place_cases h with h | h | h
  · cases h
  · cases h
  · cases h

theorem netloc_chars {w : Written} (h : c ∈ w.netloc) : isUserInfoChar c = true := by
  have hplace : c ∈ w.place → isUserInfoChar c = true := by
    intro h
    rcases place_cases h with h | h | rfl
    · exact isUserInfoChar_of_isHostChar h
    · exact isUserInfoChar_of_isDigit h
    · decide
  unfold netloc at h
  cases huser : w.userInfo with
  | none =>
    rw [huser] at h
    exact hplace h
  | some u =>
    rw [huser] at h
    rcases List.mem_append.mp h with h | h
    · exact w.userInfo_chars u huser c h
    · rcases List.mem_cons.mp h with rfl | h
      · decide
      · exact hplace h

theorem visible_netloc : Text.Visible w.netloc := fun _ hc =>
  (isUserInfoChar_iff.mp (netloc_chars hc)).1

theorem not_mem_netloc (h : c ∈ "/?#[]".toList) : c ∉ w.netloc := by
  exact fun hmem => (isUserInfoChar_iff.mp (netloc_chars hmem)).2 h

theorem visible_marked (mark : Char) {t : Option Text} (hmark : 33 ≤ mark.toNat ∧ mark.toNat < 128)
    (h : ∀ u ∈ t, Text.Visible u) : Text.Visible (marked mark t) := by
  cases t with
  | none => exact .nil
  | some u => exact .cons hmark (h u rfl)

theorem visible_text : Text.Visible w.text := by
  have hscheme : Text.Visible w.scheme := fun c hc =>
    visible_of_isSchemeChar (List.all_eq_true.mp w.scheme_chars c hc)
  have hquery := visible_marked '?' (by decide) w.query_visible
  have hfragment := visible_marked '#' (by decide) w.fragment_visible
  exact hscheme.append (.cons (by decide) (.cons (by decide) (.cons (by decide)
    (w.visible_netloc.append (hquery.append hfragment)))))

/-! ### Cutting -/

theorem cutScheme_text : cutScheme w.text = (w.scheme.map Char.toLower,
    '/' :: '/' :: (w.netloc ++ (marked '?' w.query ++ marked '#' w.fragment))) :=
  cutScheme_append w.scheme_start w.scheme_chars _

theorem takeWhile_netloc (rest : Text) (h : ∀ c, rest.head? = some c → endsNetloc c = true) :
    (w.netloc ++ rest).takeWhile (fun c => !endsNetloc c) = w.netloc ∧
      (w.netloc ++ rest).dropWhile (fun c => !endsNetloc c) = rest := by
  have hnetloc : ∀ c ∈ w.netloc, (!endsNetloc c) = true := by
    intro c hc
    have hne {d : Char} (hd : d ∈ "/?#[]".toList) : c ≠ d := fun h => w.not_mem_netloc hd (h ▸ hc)
    simp [endsNetloc, hne (d := '/') (by decide), hne (d := '?') (by decide),
      hne (d := '#') (by decide)]
  rw [List.takeWhile_append_of_pos hnetloc, List.dropWhile_append_of_pos hnetloc]
  cases rest with
  | nil => simp
  | cons c rest => simp [h c rfl]

theorem cutNetloc_text :
    cutNetloc ('/' :: '/' :: (w.netloc ++ (marked '?' w.query ++ marked '#' w.fragment))) =
      (w.netloc, marked '?' w.query ++ marked '#' w.fragment) := by
  have hends : ∀ c, (marked '?' w.query ++ marked '#' w.fragment).head? = some c →
      endsNetloc c = true := by
    intro c hc
    cases hquery : w.query <;> cases hfragment : w.fragment <;>
      rw [hquery, hfragment] at hc <;> cases hc <;> rfl
  obtain ⟨htake, hdrop⟩ := w.takeWhile_netloc _ hends
  rw [cutNetloc, htake, hdrop]

theorem checkBrackets_netloc : checkBrackets w.netloc = .ok () := by
  have hopen : w.netloc.contains '[' = false := by
    simpa using w.not_mem_netloc (c := '[') (by decide)
  have hclose : w.netloc.contains ']' = false := by
    simpa using w.not_mem_netloc (c := ']') (by decide)
  rw [checkBrackets, hopen, hclose]

theorem checkCompatibility_netloc : checkCompatibility w.netloc = .ok () :=
  checkCompatibility_of_ascii w.visible_netloc.ascii

theorem cut_fragment :
    Text.cut '#' (marked '?' w.query ++ marked '#' w.fragment) =
      (marked '?' w.query, w.fragment) := by
  refine cut_marked (fun h => ?_) w.fragment
  cases hquery : w.query with
  | none =>
    rw [hquery] at h
    cases h
  | some q =>
    have hq := w.query_plain q hquery
    rw [hquery] at h
    simp [marked, hq] at h

theorem cut_query : Text.cut '?' (marked '?' w.query) = ([], w.query) :=
  cut_marked List.not_mem_nil w.query

end Written

theorem cleaned_append (h : Text.Visible t) (hne : t ≠ []) (u : Text) :
    cleaned (t ++ u) = t ++ Text.without u ['\t', '\r', '\n'] := by
  have hstart : (t ++ u).dropWhile (fun c => c.toNat ≤ 32) = t ++ u := by
    obtain ⟨c, rest, rfl⟩ := List.exists_cons_of_ne_nil hne
    have hc := h c List.mem_cons_self
    exact List.dropWhile_cons_of_neg (by simp only [decide_eq_true_eq]; omega)
  rw [cleaned, hstart, Text.without, List.filter_append]
  congr 1
  refine List.filter_eq_self.mpr fun c hc => ?_
  have hvisible := h c hc
  have hne : c ≠ '\t' ∧ c ≠ '\r' ∧ c ≠ '\n' := by
    refine ⟨?_, ?_, ?_⟩ <;> rintro rfl <;> exact absurd hvisible.1 (by decide)
  simp [hne]

theorem cleaned_of_visible (h : Text.Visible t) : cleaned t = t := by
  by_cases hne : t = []
  · rw [hne]
    rfl
  · have hclean := cleaned_append h hne []
    rwa [List.append_nil, Text.without, List.filter_nil, List.append_nil] at hclean

namespace Written

variable (w : Written)

theorem split_of_cutScheme {scheme : Text} (h : cutScheme (cleaned t) =
    (scheme, '/' :: '/' :: (w.netloc ++ (marked '?' w.query ++ marked '#' w.fragment)))) :
    split t = .ok { w.parts with scheme := scheme } := by
  unfold split
  rw [h]
  dsimp only
  rw [w.cutNetloc_text]
  dsimp only
  rw [w.checkBrackets_netloc, w.cut_fragment]
  dsimp only
  rw [w.cut_query, w.checkCompatibility_netloc]
  rfl

/-- **A URL is cut into the parts it is put together from.** -/
theorem split_text : split w.text = .ok w.parts := by
  refine w.split_of_cutScheme ?_
  rw [cleaned_of_visible w.visible_text, w.cutScheme_text]

theorem split_reference : split
    ('/' :: '/' :: (w.netloc ++ (marked '?' w.query ++ marked '#' w.fragment))) =
      .ok { w.parts with scheme := [] } := by
  have hquery := visible_marked '?' (by decide) w.query_visible
  have hfragment := visible_marked '#' (by decide) w.fragment_visible
  have hvisible := w.visible_netloc.append (hquery.append hfragment)
  refine w.split_of_cutScheme ?_
  rw [cleaned_of_visible (.cons (by decide) (.cons (by decide) hvisible)), cutScheme]
  split
  · exact if_neg (by simp)
  · rfl

/-! ### Host, port and user information -/

theorem cutLast_netloc : Text.cutLast '@' w.netloc = w.userInfo.map fun u => (u, w.place) := by
  unfold netloc
  cases w.userInfo with
  | none => exact Text.cutLast_of_not_mem w.at_not_mem_place
  | some u => exact Text.cutLast_append_cons u w.at_not_mem_place

theorem hostAndPort_netloc : hostAndPort w.netloc = w.place := by
  rw [hostAndPort, cutLast_netloc]
  cases huser : w.userInfo with
  | none => rw [Option.map_none]; simp [netloc, huser]
  | some u => rfl

theorem userInfo_parts : w.parts.userInfo = w.userInfo.getD [] := by
  rw [Parts.userInfo, parts, cutLast_netloc, Option.map_map]
  cases w.userInfo <;> rfl

theorem hostPort_parts : w.parts.hostPort = (w.host, (w.port.map Text.ofNat).getD []) := by
  have hbracket : '[' ∉ w.place := by
    intro h
    rcases place_cases h with h | h | h <;> cases h
  have hcolon : ':' ∉ w.host := by
    intro h
    cases w.host_chars ':' h
  exact Parts.hostPort_of_plain w.hostAndPort_netloc hbracket hcolon

theorem host_parts : w.parts.host = w.host := by
  have hpercent : '%' ∉ w.host := by
    intro h
    cases w.host_chars '%' h
  have hascii : ∀ c ∈ w.host, c.toNat < 128 := fun c hc =>
    (isUserInfoChar_iff.mp (isUserInfoChar_of_isHostChar (w.host_chars c hc))).1.2
  rw [Parts.host, hostPort_parts]
  dsimp only
  rw [Text.cut_of_not_mem hpercent]
  dsimp only
  rw [Text.lower_of_ascii hascii]
  exact (List.map_congr_left fun c hc => toLower_of_isHostChar (w.host_chars c hc)).trans
    (List.map_id w.host)

theorem port_parts : w.parts.port = .ok w.port :=
  Parts.port_of_hostPort (by rw [hostPort_parts]) w.port_le

end Written

end LinkHarvest.Url
