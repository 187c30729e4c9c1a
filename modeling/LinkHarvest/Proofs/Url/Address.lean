import LinkHarvest.Proofs.Fallible
import LinkHarvest.Proofs.Text.Case
import LinkHarvest.Proofs.Url.Ip
import LinkHarvest.Proofs.Url.Split

/-!
# Addresses that are read again

A host that was read from a URL is settled: written down again with its port, and in brackets when
it holds a colon, it is read as the same host with the same port (`Settled.split_authority`). A host
is read in lower case, and two things have to survive that. It stays as it is when it is lowered
once more (`named_named`), and where brackets are needed it stays an address that may stand in them
(`checkBracketedHost_named`).
-/

namespace LinkHarvest.Url

variable {host name netloc t u : Text} {zone : Option Text} {c : Char} {parts : Parts}

/-! ## Names in lower case -/

/-- A host as it is read: in lower case up to its zone. -/
def named (t : Text) : Text :=
  match Text.cut '%' t with
  | (name, none) => Text.lower name
  | (name, some zone) => Text.lower name ++ '%' :: zone

theorem Parts.host_eq (p : Parts) : p.host = named p.hostPort.1 := rfl

theorem named_marked (h : '%' ∉ name) (zone : Option Text) :
    named (name ++ marked '%' zone) = Text.lower name ++ marked '%' zone := by
  unfold named
  rw [cut_marked h]
  cases zone with
  | none => exact (List.append_nil _).symm
  | some zone => rfl

theorem exists_zone (t : Text) : ∃ name zone, '%' ∉ name ∧ t = name ++ marked '%' zone := by
  rcases Text.cut_cases '%' t with ⟨h, -⟩ | ⟨name, zone, rfl, h, -⟩
  · exact ⟨t, none, h, (List.append_nil t).symm⟩
  · exact ⟨name, some zone, h, rfl⟩

theorem mem_named (h : c ∈ named t) (hascii : c.toNat < 128) : c.isLower = true ∨ c ∈ t := by
  obtain ⟨name, zone, hname, rfl⟩ := exists_zone t
  rw [named_marked hname] at h
  rcases List.mem_append.mp h with h | h
  · exact (Text.mem_lower h hascii).2.imp_right (List.mem_append_left _)
  · exact .inr (List.mem_append_right _ h)

theorem mem_of_mem_named (h : c ∈ named t) (hc : c.toNat < 97) : c ∈ t := by
  refine (mem_named h (by omega)).resolve_left fun hlower => ?_
  simp only [Text.isLower_iff, Text.le_iff_toNat, Char.reduceToNat] at hlower
  omega

/-- **What was read is read as it is.** -/
theorem named_named (h : ∀ c ∈ named t, c.toNat < 128) : named (named t) = named t := by
  obtain ⟨name, zone, hname, rfl⟩ := exists_zone t
  rw [named_marked hname] at h ⊢
  have hascii : ∀ c ∈ Text.lower name, c.toNat < 128 := fun c hc => h c (List.mem_append_left _ hc)
  have hlower : '%' ∉ Text.lower name := by
    intro hmem
    rcases (Text.mem_lower hmem (by decide)).2 with hsmall | hmem
    · cases hsmall
    · exact hname hmem
  rw [named_marked hlower, Text.lower_lower hascii]

/-! ## Hosts in brackets -/

theorem isVersion6_marked (h : '%' ∉ name) : Ip.isVersion6 (name ++ marked '%' zone) = true ↔
    '/' ∉ name ++ marked '%' zone ∧ Ip.isGroups name = true ∧ ∀ z ∈ zone, z ≠ [] ∧ '%' ∉ z := by
  unfold Ip.isVersion6
  rw [cut_marked h]
  cases zone with
  | none => simp
  | some z => simp [and_comm, and_left_comm]

theorem not_mem_of_isGroups (h : Ip.isGroups name = true) (hc : Ip.isAddressChar c = false) :
    c ∉ name := by
  intro hmem
  rw [Ip.isAddressChar_of_isGroups h c hmem] at hc
  cases hc

theorem lower_of_isGroups (h : Ip.isGroups name = true) :
    Text.lower name = name.map Char.toLower := by
  refine Text.lower_of_ascii fun c hc => ?_
  have haddress := Ip.isAddressChar_of_isGroups h c hc
  simp only [Ip.isAddressChar, Bool.or_eq_true, Ip.isSome_hexDigit?_iff, beq_iff_eq] at haddress
  rcases haddress with (hhex | rfl) | rfl
  · omega
  · decide
  · decide

theorem isVersion6_named (h : Ip.isVersion6 t = true) : Ip.isVersion6 (named t) = true := by
  obtain ⟨name, zone, hname, rfl⟩ := exists_zone t
  obtain ⟨hslash, hgroups, hzone⟩ := (isVersion6_marked hname).mp h
  have hmap : ∀ {d : Char}, d.toNat < 65 → (d ∈ name.map Char.toLower ↔ d ∈ name) :=
    fun h => Ip.mem_map_toLower h
  rw [named_marked hname, lower_of_isGroups hgroups]
  refine (isVersion6_marked (mt (hmap (by decide)).mp hname)).mpr ⟨?_, ?_, hzone⟩
  · intro hmem
    refine hslash (List.mem_append.mpr ((List.mem_append.mp hmem).imp_left ?_))
    exact (hmap (by decide)).mp
  · rwa [Ip.isGroups_toLower]

theorem startsWith_of_isVersion6 (h : Ip.isVersion6 t = true) : t.startsWith ['v'] = false := by
  obtain ⟨name, zone, hname, rfl⟩ := exists_zone t
  obtain ⟨-, hgroups, -⟩ := (isVersion6_marked hname).mp h
  cases name with
  | nil => cases hgroups
  | cons c name =>
    have hc : c ≠ 'v' := by
      rintro rfl
      exact not_mem_of_isGroups hgroups (by decide) List.mem_cons_self
    simp [Text.startsWith, List.isPrefixOf, Ne.symm hc]

theorem colon_not_mem_of_isVersion4 (h : Ip.isVersion4 t = true) : ':' ∉ t := by
  intro hmem
  rcases Ip.isDigit_of_isVersion4 h hmem with hdigit | heq
  · cases hdigit
  · cases heq

theorem isFutureAddress_cases (hstart : t.startsWith ['v'] = true) (h : isFutureAddress t = true) :
    ∃ digits rest, t = 'v' :: digits ++ '.' :: rest ∧ digits ≠ [] ∧
      ∀ c ∈ digits, (Text.hexDigit? c).isSome = true := by
  obtain ⟨u, rfl⟩ : ∃ u, t = 'v' :: u := by
    obtain ⟨u, hu⟩ := List.isPrefixOf_iff_prefix.mp hstart
    exact ⟨u, hu.symm⟩
  unfold isFutureAddress at h
  rw [List.drop_succ_cons, List.drop_zero] at h
  rcases Text.cut_cases '.' u with ⟨-, hcut⟩ | ⟨digits, rest, rfl, -, hcut⟩
  · rw [hcut] at h
    cases h
  · rw [hcut] at h
    simp only [Bool.and_eq_true, List.all_eq_true] at h
    exact ⟨digits, rest, rfl, by simpa using h.1.1, h.1.2⟩

theorem isFutureAddress_of_digits {digits rest : Text} (hne : digits ≠ [])
    (hdigits : ∀ c ∈ digits, (Text.hexDigit? c).isSome = true) (hrest : rest ≠ []) :
    isFutureAddress ('v' :: digits ++ '.' :: rest) = true := by
  have hdot : '.' ∉ digits := fun hmem => absurd (hdigits '.' hmem) (by decide)
  unfold isFutureAddress
  rw [List.cons_append, List.drop_succ_cons, List.drop_zero, Text.cut_append_cons hdot]
  simp only [Bool.and_eq_true, List.all_eq_true]
  exact ⟨⟨by simpa using hne, hdigits⟩, by simpa using hrest⟩

theorem exists_named_append (h : ∀ c ∈ t, c.toNat < 128) (hpercent : '%' ∉ t) (u : Text) :
    ∃ v, named (t ++ u) = t.map Char.toLower ++ v := by
  obtain ⟨name, zone, hname, rfl⟩ := exists_zone u
  have hwhole : '%' ∉ t ++ name := fun hmem => (List.mem_append.mp hmem).elim hpercent hname
  rw [← List.append_assoc, named_marked hwhole, Text.lower_append_of_ascii h, List.append_assoc]
  exact ⟨_, rfl⟩

theorem isFutureAddress_named (hstart : t.startsWith ['v'] = true) (h : isFutureAddress t = true)
    (hcolon : ':' ∈ named t) :
    (named t).startsWith ['v'] = true ∧ isFutureAddress (named t) = true := by
  obtain ⟨digits, rest, rfl, hne, hdigits⟩ := isFutureAddress_cases hstart h
  have hhead : ∀ c ∈ 'v' :: digits ++ ['.'], c.toNat < 128 ∧ c ≠ '%' ∧ c ≠ ':' := by
    intro c hc
    rcases List.mem_append.mp hc with hc | hc
    · rcases List.mem_cons.mp hc with rfl | hc
      · decide
      · have hhex := Ip.isSome_hexDigit?_iff.mp (hdigits c hc)
        refine ⟨by omega, ?_, ?_⟩ <;> rintro rfl <;> revert hhex <;> decide
    · rw [List.mem_singleton.mp hc]
      decide
  obtain ⟨v, hv⟩ := exists_named_append (fun c hc => (hhead c hc).1)
    (fun hmem => (hhead _ hmem).2.1 rfl) rest
  have hnamed : named ('v' :: digits ++ '.' :: rest) =
      'v' :: digits.map Char.toLower ++ '.' :: v := by
    rw [List.append_cons, hv]
    simp
  -- The colon is not in the start of the address, so something follows it.
  have hrest : v ≠ [] := by
    rintro rfl
    rw [List.append_cons, hv, List.append_nil] at hcolon
    exact (hhead _ ((Ip.mem_map_toLower (by decide)).mp hcolon)).2.2 rfl
  rw [hnamed]
  refine ⟨rfl, isFutureAddress_of_digits (by simpa using hne) ?_ hrest⟩
  intro c hc
  obtain ⟨d, hd, rfl⟩ := List.mem_map.mp hc
  rw [Ip.isSome_hexDigit?_toLower]
  exact hdigits d hd

theorem checkBracketedHost_named (h : checkBracketedHost t = .ok ()) (hcolon : ':' ∈ named t) :
    checkBracketedHost (named t) = .ok () := by
  unfold checkBracketedHost at h
  by_cases hstart : t.startsWith ['v'] = true
  · rw [if_pos hstart] at h
    split at h
    · rename_i hfuture
      obtain ⟨hstart', hfuture'⟩ := isFutureAddress_named hstart hfuture hcolon
      rw [checkBracketedHost, if_pos hstart', if_pos hfuture']
    · cases h
  · rw [if_neg hstart] at h
    split at h
    · cases h
    · split at h
      · rename_i hversion
        have hversion' := isVersion6_named hversion
        rw [checkBracketedHost, if_neg (by simp [startsWith_of_isVersion6 hversion']),
          if_neg (fun h => colon_not_mem_of_isVersion4 h hcolon), if_pos hversion']
      · cases h

/-! ## Settled hosts -/

/-- A host that is read as it is wherever it may stand. -/
structure Settled (host : Text) : Prop where
  ascii : ∀ c ∈ host, c.toNat < 128
  plain : ∀ c ∈ "/?#@[]\t\r\n".toList, c ∉ host
  lowered : named host = host
  bracketed : ':' ∈ host → checkBracketedHost host = .ok ()

theorem mem_cutScheme (h : c ∈ (cutScheme t).2) : c ∈ t := by
  unfold cutScheme at h
  split at h
  · exact h
  · rename_i first rest
    rcases Text.cut_cases ':' (first :: rest) with ⟨-, hcut⟩ | ⟨scheme, v, heq, -, hcut⟩
    · rwa [hcut] at h
    · rw [hcut] at h
      dsimp only at h
      split at h
      · rw [heq]
        exact List.mem_append_right _ (List.mem_cons_of_mem _ h)
      · exact h

theorem mem_cutNetloc (h : c ∈ (cutNetloc t).1) : c ∈ t ∧ endsNetloc c = false := by
  unfold cutNetloc at h
  split at h
  · refine ⟨?_, by simpa using List.mem_takeWhile_imp h⟩
    exact List.mem_cons_of_mem _ (List.mem_cons_of_mem _ (List.takeWhile_subset _ h))
  · cases h

theorem netloc_of_split (h : split t = .ok parts) :
    checkBrackets parts.netloc = .ok () ∧ ∀ c ∈ "/?#\t\r\n".toList, c ∉ parts.netloc := by
  unfold split at h
  obtain ⟨_, hcheck, h⟩ := Fallible.bind_eq_ok.mp h
  obtain ⟨_, -, h⟩ := Fallible.bind_eq_ok.mp h
  cases h
  refine ⟨hcheck, fun c hc hmem => ?_⟩
  obtain ⟨hrest, hends⟩ := mem_cutNetloc hmem
  have hclean := (List.mem_filter.mp (mem_cutScheme hrest)).2
  have hall : ∀ c ∈ "/?#\t\r\n".toList,
      endsNetloc c = true ∨ (['\t', '\r', '\n'] : Text).contains c = true :=
    Text.forall_mem_of_all (by decide)
  rcases hall c hc with h | h
  · rw [h] at hends
    cases hends
  · rw [h] at hclean
    cases hclean

theorem mem_hostAndPort (h : c ∈ hostAndPort netloc) : c ∈ netloc ∧ c ≠ '@' := by
  unfold hostAndPort at h
  rcases Text.cutLast_cases '@' netloc with ⟨hat, hcut⟩ | ⟨u, v, rfl, hat, hcut⟩
  · rw [hcut] at h
    exact ⟨h, fun heq => hat (heq ▸ h)⟩
  · rw [hcut] at h
    exact ⟨List.mem_append_right _ (List.mem_cons_of_mem _ h), fun heq => hat (heq ▸ h)⟩

/-- A host as it is written is a part of the network location, and holds a colon only in brackets
that were checked. -/
theorem Parts.hostPort_of_checkBrackets (h : checkBrackets parts.netloc = .ok ()) :
    (∀ c ∈ parts.hostPort.1, c ∈ parts.netloc ∧ c ≠ '@') ∧
      (':' ∈ parts.hostPort.1 → checkBracketedHost parts.hostPort.1 = .ok ()) := by
  unfold hostPort
  dsimp only
  rcases Text.cut_cases '[' (hostAndPort parts.netloc) with ⟨-, hcut⟩ | ⟨u, v, heq, -, hcut⟩
  · rw [hcut]
    dsimp only
    refine ⟨fun c hc => mem_hostAndPort ((Text.before_prefix ':' _).subset hc), fun hcolon => ?_⟩
    exact absurd hcolon (Text.not_mem_before ':' _)
  · rw [hcut]
    dsimp only
    refine ⟨fun c hc => mem_hostAndPort ?_, fun _ => ?_⟩
    · rw [heq]
      exact List.mem_append_right _ (List.mem_cons_of_mem _ ((Text.before_prefix ']' v).subset hc))
    · have hopen : '[' ∈ parts.netloc :=
        (mem_hostAndPort (heq ▸ List.mem_append_right _ List.mem_cons_self)).1
      unfold checkBrackets at h
      rw [List.contains_iff_mem.mpr hopen] at h
      split at h
      · unfold checkBracketedNetloc at h
        rw [hcut] at h
        dsimp only at h
        split at h
        · cases h
        · split at h
          · cases h
          · exact h
      · cases ‹true = false›
      · cases h

/-- **The host of a URL is settled**, if it is written in ASCII. -/
theorem settled_host (h : split t = .ok parts) (hascii : ∀ c ∈ parts.host, c.toNat < 128)
    (hbracket : '[' ∉ parts.host ∧ ']' ∉ parts.host) : Settled parts.host := by
  obtain ⟨hcheck, hnetloc⟩ := netloc_of_split h
  obtain ⟨hmem, hcolon⟩ := Parts.hostPort_of_checkBrackets hcheck
  rw [Parts.host_eq] at hascii hbracket ⊢
  refine ⟨hascii, fun c hc hhost => ?_, named_named hascii, fun h => ?_⟩
  · have hall : ∀ c ∈ "/?#@[]\t\r\n".toList, c.toNat < 97 ∧
        (c = '[' ∨ c = ']' ∨ c = '@' ∨ c ∈ "/?#\t\r\n".toList) :=
      Text.forall_mem_of_all (by decide)
    obtain ⟨hsmall, rfl | rfl | rfl | hends⟩ := hall c hc
    · exact hbracket.1 hhost
    · exact hbracket.2 hhost
    · exact (hmem _ (mem_of_mem_named hhost hsmall)).2 rfl
    · exact hnetloc c hends (hmem c (mem_of_mem_named hhost hsmall)).1
  · exact checkBracketedHost_named (hcolon (mem_of_mem_named h (by decide))) h

theorem Parts.port_le {port : Option Nat} (h : parts.port = .ok port) : ∀ n ∈ port, n ≤ 65535 := by
  unfold Parts.port at h
  dsimp only at h
  split at h
  · cases h
    nofun
  · split at h
    · cases h
    · split at h
      · cases h
      · split at h
        · cases h
        · rename_i hle
          cases h
          rintro n ⟨⟩
          omega

/-! ## Reading again -/

/-- A host and a port as they are written; a host with colons stands in brackets. -/
def authority (host : Text) (port : Option Nat) : Text :=
  (if ':' ∈ host then '[' :: (host ++ [']']) else host) ++ marked ':' (port.map Text.ofNat)

variable {port : Option Nat}

theorem mem_authority (h : c ∈ authority host port) :
    c ∈ host ∨ c ∈ "[]:".toList ∨ c.isDigit = true := by
  rcases List.mem_append.mp h with h | h
  · split at h
    · rcases List.mem_cons.mp h with rfl | h
      · exact .inr (.inl (by decide))
      · rcases List.mem_append.mp h with h | h
        · exact .inl h
        · rw [List.mem_singleton.mp h]
          exact .inr (.inl (by decide))
    · exact .inl h
  · rcases mem_marked_port h with rfl | h
    · exact .inr (.inl (by decide))
    · exact .inr (.inr h)

theorem Settled.ascii_authority (h : Settled host) (port : Option Nat) :
    ∀ c ∈ authority host port, c.toNat < 128 := by
  intro c hc
  rcases mem_authority hc with hc | hc | hc
  · exact h.ascii c hc
  · exact Text.forall_mem_of_all (p := fun c => c.toNat < 128) (by decide) c hc
  · exact (Text.visible_of_isDigit hc).2

theorem Settled.plain_authority (h : Settled host) (port : Option Nat) :
    ∀ c ∈ "/?#@\t\r\n".toList, c ∉ authority host port := by
  intro c hc hmem
  have hall : ∀ c ∈ "/?#@\t\r\n".toList, c ∈ "/?#@[]\t\r\n".toList ∧ c ∉ "[]:".toList ∧
      c.isDigit = false := Text.forall_mem_of_all (by decide)
  obtain ⟨hplain, hmark, hdigit⟩ := hall c hc
  rcases mem_authority hmem with hmem | hmem | hmem
  · exact h.plain c hplain hmem
  · exact hmark hmem
  · rw [hdigit] at hmem
    cases hmem

theorem split_netloc (hascii : ∀ c ∈ netloc, c.toNat < 128)
    (hplain : ∀ c ∈ "/?#\t\r\n".toList, c ∉ netloc) (hcheck : checkBrackets netloc = .ok ()) :
    split ('/' :: '/' :: netloc) = .ok ⟨[], netloc, [], [], []⟩ := by
  have hne : ∀ d ∈ "/?#\t\r\n".toList, ∀ c ∈ netloc, c ≠ d :=
    fun d hd c hc heq => hplain d hd (heq ▸ hc)
  have hclean : cleaned ('/' :: '/' :: netloc) = '/' :: '/' :: netloc := by
    rw [cleaned, List.dropWhile_cons_of_neg (by decide), Text.without]
    refine List.filter_eq_self.mpr (List.forall_mem_cons.mpr ⟨rfl, ?_⟩)
    refine List.forall_mem_cons.mpr ⟨rfl, fun c hc => ?_⟩
    simp [hne '\t' (by decide) c hc, hne '\r' (by decide) c hc, hne '\n' (by decide) c hc]
  have hscheme : cutScheme ('/' :: '/' :: netloc) = ([], '/' :: '/' :: netloc) := by
    rw [cutScheme]
    split
    · exact if_neg (by simp)
    · rfl
  have hends : ∀ c ∈ netloc, (!endsNetloc c) = true := by
    intro c hc
    simp [endsNetloc, hne '/' (by decide) c hc, hne '?' (by decide) c hc, hne '#' (by decide) c hc]
  have hnetloc : cutNetloc ('/' :: '/' :: netloc) = (netloc, []) := by
    rw [cutNetloc, List.takeWhile_eq_self_iff.mpr hends, List.dropWhile_eq_nil_iff.mpr hends]
  unfold split
  rw [hclean, hscheme]
  dsimp only
  rw [hnetloc]
  dsimp only
  rw [hcheck, checkCompatibility_of_ascii hascii]
  rfl

theorem authority_of_mem (h : ':' ∈ host) (port : Option Nat) :
    authority host port = '[' :: (host ++ ']' :: marked ':' (port.map Text.ofNat)) := by
  rw [authority, if_pos h]
  simp

theorem authority_of_not_mem (h : ':' ∉ host) (port : Option Nat) :
    authority host port = host ++ marked ':' (port.map Text.ofNat) := by
  rw [authority, if_neg h]

theorem Settled.hostAndPort_authority (h : Settled host) (port : Option Nat) :
    hostAndPort (authority host port) = authority host port := by
  rw [hostAndPort, Text.cutLast_of_not_mem (h.plain_authority port '@' (by decide))]

theorem Settled.not_mem_append (h : Settled host) (hc : c = '[' ∨ c = ']') (port : Option Nat) :
    c ∉ host ++ marked ':' (port.map Text.ofNat) := by
  intro hmem
  rcases List.mem_append.mp hmem with hmem | hmem
  · rcases hc with rfl | rfl <;> exact h.plain _ (by decide) hmem
  · rcases hc with rfl | rfl <;> rcases mem_marked_port hmem with heq | hdigit <;> contradiction

theorem Settled.checkBrackets_authority (h : Settled host) (port : Option Nat) :
    checkBrackets (authority host port) = .ok () := by
  have hclose : ']' ∉ host := h.plain ']' (by decide)
  by_cases hcolon : ':' ∈ host
  · have hplace := h.hostAndPort_authority port
    rw [authority_of_mem hcolon] at hplace ⊢
    unfold checkBrackets
    rw [List.contains_iff_mem.mpr List.mem_cons_self, List.contains_iff_mem.mpr (by simp)]
    dsimp only
    unfold checkBracketedNetloc
    rw [hplace, Text.cut, if_pos rfl]
    dsimp only
    rw [Text.before_append_cons hclose, Text.after_append_cons hclose]
    cases port <;> exact h.bracketed hcolon
  · have hnone : ∀ c, c = '[' ∨ c = ']' →
        (host ++ marked ':' (port.map Text.ofNat)).contains c = false := by
      intro c hc
      rw [← Bool.not_eq_true, List.contains_iff_mem]
      exact h.not_mem_append hc port
    rw [authority_of_not_mem hcolon, checkBrackets, hnone '[' (.inl rfl), hnone ']' (.inr rfl)]

theorem Settled.hostPort_authority (h : Settled host)
    (hnetloc : parts.netloc = authority host port) :
    parts.hostPort = (host, (port.map Text.ofNat).getD []) := by
  have hplace : hostAndPort parts.netloc = authority host port := by
    rw [hnetloc, h.hostAndPort_authority]
  by_cases hcolon : ':' ∈ host
  · rw [authority_of_mem hcolon] at hplace
    exact Parts.hostPort_of_bracketed hplace (h.plain ']' (by decide))
  · rw [authority_of_not_mem hcolon] at hplace
    exact Parts.hostPort_of_plain hplace (h.not_mem_append (.inl rfl) port) hcolon

/-- **A settled host and its port are read again as they are.** -/
theorem Settled.split_authority (h : Settled host) (hport : ∀ n ∈ port, n ≤ 65535) :
    ∃ again, split ('/' :: '/' :: authority host port) = .ok again ∧ again.host = host ∧
      again.port = .ok port := by
  have hplain : ∀ c ∈ "/?#\t\r\n".toList, c ∉ authority host port := by
    have hall : ∀ c ∈ "/?#\t\r\n".toList, c ∈ "/?#@\t\r\n".toList :=
      Text.forall_mem_of_all (by decide)
    exact fun c hc => h.plain_authority port c (hall c hc)
  refine ⟨⟨[], authority host port, [], [], []⟩, ?_, ?_, ?_⟩
  · exact split_netloc (h.ascii_authority port) hplain (h.checkBrackets_authority port)
  · rw [Parts.host_eq, h.hostPort_authority rfl, h.lowered]
  · exact Parts.port_of_hostPort (by rw [h.hostPort_authority rfl]) hport

end LinkHarvest.Url
