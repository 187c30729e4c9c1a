import LinkHarvest.Proofs.Link.Record
import LinkHarvest.Proofs.Text.Base64

/-!
# Shadowsocks links written and read back

What a shadowsocks link states is a server: an account, a host, maybe a port and a plugin, and a
remark (`Server`). The account may be written with escapes or in base64, and with host and port in
one base64 text (`Server.Spelling`). All links of a server are decoded to one summary
(`decode_server`).

The three grammars are told apart by an at sign and a colon. No base64 text holds either, so the
last at sign of a link stands before the host wherever one is written, and an account in base64 is
never taken for one with escapes. Slashes at the end of a link are dropped before a base64 text is
read; none of them belongs to it, since the last byte of the text is one of a host or a port.
-/

namespace LinkHarvest.Link.Shadowsocks

/-! ## Servers -/

/-- What a shadowsocks link states. -/
structure Server where
  method : Text
  password : Text
  host : Text
  port : Option Nat
  plugin : Option Text
  remark : Text
  method_ne_nil : method ≠ []
  method_plain : ':' ∉ method
  host_ne_nil : host ≠ []
  host_chars : ∀ c ∈ host, Url.isHostChar c = true
  port_le : ∀ n ∈ port, n ≤ 65535

namespace Server

/-- Method and password with a colon between them. -/
def account (s : Server) : Text := s.method ++ ':' :: s.password

def url (s : Server) : Url.Written where
  scheme := "ss"
  userInfo := none
  host := s.host
  port := s.port
  query := none
  fragment := none
  scheme_start := ⟨_, _, rfl, rfl⟩
  scheme_chars := rfl
  userInfo_chars := nofun
  host_chars := s.host_chars
  port_le := s.port_le
  query_visible := nofun
  query_plain := nofun
  fragment_visible := nofun

def place (s : Server) : Text := s.host ++ Url.marked ':' (s.port.map Text.ofNat)

def summary (s : Server) : Summary where
  protocol := "shadowsocks"
  remark := .ofText s.remark
  address := .ofText s.place
  details := ("method".toList, Detail.ofText s.method) ::
    ("password".toList, Detail.ofText s.password) ::
    (s.plugin.map fun p => ("plugin".toList, Detail.ofText p)).toList

/-- The ways to write account, host and port. -/
inductive Spelling (s : Server) : Text → Prop
  /-- The account with escapes, in any spelling that does not end the part. -/
  | escaped {w : Text} (spells : Percent.Spelled w s.account) (visible : Text.Visible w)
      (plain : ∀ c ∈ ['?', '#'], c ∉ w) : s.Spelling (w ++ '@' :: s.place)
  /-- The account in base64. -/
  | encoded (l : Base64.Line (Utf8.encode s.account)) : s.Spelling (l.text ++ '@' :: s.place)
  /-- Everything in one base64 text. -/
  | whole (l : Base64.Line (Utf8.encode (s.account ++ '@' :: s.place))) : s.Spelling l.text

/-- A way to write a server: a spelling of its main part, the slashes behind it, and how the plugin
and the remark are quoted. -/
structure Writing (s : Server) where
  main : Text
  slashes : Nat
  plugin : Option Text
  fragment : Option Text
  main_spells : s.Spelling main
  plugin_quoted : Option.Rel Url.Query.Quoted plugin s.plugin
  fragment_spells : Percent.Spelled (fragment.getD []) s.remark
  fragment_visible : ∀ f ∈ fragment, Text.Visible f

def Writing.query {s : Server} (w : s.Writing) : Option Text :=
  w.plugin.map ("plugin".toList ++ '=' :: ·)

def Writing.body {s : Server} (w : s.Writing) : Text :=
  w.main ++ List.replicate w.slashes '/' ++ Url.marked '?' w.query ++ Url.marked '#' w.fragment

def Writing.link {s : Server} (w : s.Writing) : Text := "ss://".toList ++ w.body

variable (s : Server)

/-! ## Host and port -/

theorem at_not_mem_place : '@' ∉ s.place := s.url.at_not_mem_place

theorem visible_place : Text.Visible s.place := s.url.visible_netloc

theorem not_mem_place {c : Char} (h : c ∈ "/?#[]".toList) : c ∉ s.place := s.url.not_mem_netloc h

theorem exists_getLast?_place : ∃ c, s.place.getLast? = some c ∧
    (Url.isHostChar c = true ∨ c.isDigit = true) := by
  unfold place
  cases s.port with
  | none =>
    obtain ⟨c, hc⟩ := Option.ne_none_iff_exists'.mp (mt List.getLast?_eq_none_iff.mp s.host_ne_nil)
    exact ⟨c, by rwa [Option.map_none, Url.marked.eq_1, List.append_nil],
      .inl (s.host_chars c (List.mem_of_getLast? hc))⟩
  | some n =>
    obtain ⟨c, hc⟩ :=
      Option.ne_none_iff_exists'.mp (mt List.getLast?_eq_none_iff.mp (Text.ofNat_ne_nil n))
    have hlast : (s.host ++ ':' :: Text.ofNat n).getLast? = some c := by
      rw [List.getLast?_append_of_ne_nil _ (List.cons_ne_nil _ _), List.getLast?_cons, hc]
      rfl
    exact ⟨c, hlast, .inr (Text.isDigit_ofNat (List.mem_of_getLast? hc))⟩

theorem toNat_of_place_end {c : Char} (h : Url.isHostChar c = true ∨ c.isDigit = true) :
    c.toNat < 128 ∧ c.toNat % 64 ≠ 63 := by
  simp only [Url.isHostChar, Bool.or_eq_true, beq_iff_eq, Text.isLower_iff, Text.isDigit_iff,
    Text.le_iff_toNat, Char.reduceToNat] at h
  rcases h with (((h | h) | rfl) | rfl) | h
  · omega
  · omega
  · decide
  · decide
  · omega

/-- The last byte of host and port, whatever precedes them, tells the end of its base64 text from a
slash. -/
theorem toNat_of_getLast?_encode {before : Text} {x : UInt8}
    (hx : (Utf8.encode (before ++ s.place)).getLast? = some x) : x.toNat % 64 ≠ 63 := by
  obtain ⟨c, hlast, hend⟩ := s.exists_getLast?_place
  obtain ⟨hascii, hmod⟩ := toNat_of_place_end hend
  have hne : s.place ≠ [] := List.ne_nil_of_mem (List.mem_of_getLast? hlast)
  rw [Utf8.getLast?_encode ((List.getLast?_append_of_ne_nil _ hne).trans hlast) hascii] at hx
  rw [← Option.some.inj hx, Utf8.toNat_ofNat (by omega)]
  exact hmod

/-! ## The main part -/

namespace Spelling

variable {s : Server} {t : Text}

theorem visible (h : s.Spelling t) : Text.Visible t := by
  cases h with
  | escaped spells visible plain => exact visible.append (.cons (by decide) s.visible_place)
  | encoded l => exact l.visible_text.append (.cons (by decide) s.visible_place)
  | whole l => exact l.visible_text

theorem not_mem (h : s.Spelling t) {c : Char} (hc : c ∈ ['?', '#']) : c ∉ t := by
  have hall : ∀ c ∈ ['?', '#'], c ∈ "/?#[]".toList ∧ c ≠ '@' ∧ Base64.isSign c = false :=
    Text.forall_mem_of_all (by decide)
  obtain ⟨hdelimiter, hat, hsign⟩ := hall c hc
  have hplace := s.not_mem_place hdelimiter
  cases h with
  | escaped spells visible plain => simp [plain c hc, hat, hplace]
  | encoded l => simp [l.not_mem_text hsign, hat, hplace]
  | whole l => exact l.not_mem_text hsign

/-- No spelling ends with a slash. -/
theorem getLast?_ne_slash (h : s.Spelling t) : t.getLast? ≠ some '/' := by
  have hplace (before : Text) : (before ++ '@' :: s.place).getLast? ≠ some '/' := by
    obtain ⟨c, hlast, -⟩ := s.exists_getLast?_place
    have hne : s.place ≠ [] := List.ne_nil_of_mem (List.mem_of_getLast? hlast)
    rw [List.append_cons, List.getLast?_append_of_ne_nil _ hne]
    exact fun hslash => s.not_mem_place (by decide) (List.mem_of_getLast? hslash)
  cases h with
  | escaped spells visible plain => exact hplace _
  | encoded l => exact hplace _
  | whole l =>
    refine l.getLast?_ne_slash fun x hx => ?_
    rw [List.append_cons] at hx
    exact s.toNat_of_getLast?_encode hx

/-- **Every spelling has the account on one side and host and port on the other.** -/
theorem sides_eq (h : s.Spelling t) : sides t = .ok (s.account, s.place) := by
  have hcolon : s.account.contains ':' = true := by simp [account]
  unfold sides
  cases h with
  | escaped spells visible plain =>
    rw [Text.cutLast_append_cons _ s.at_not_mem_place]
    dsimp only
    rw [Percent.unescape_of_spelled spells, if_pos hcolon]
  | encoded l =>
    have hself : Percent.unescape l.text = l.text :=
      Percent.unescape_of_spelled (Percent.spelled_self (l.not_mem_text (by decide)))
    have hplain : ¬l.text.contains ':' = true := by simpa using l.not_mem_text (by decide)
    rw [Text.cutLast_append_cons _ s.at_not_mem_place]
    dsimp only
    rw [hself, if_neg hplain, decoded, ← l.text_form, Base64.decodeText?_text,
      Utf8.decode?_encode]
    rfl
  | whole l =>
    rw [Text.cutLast_of_not_mem (l.not_mem_text (by decide)), decoded, ← l.text_form,
      Base64.decodeText?_text, Utf8.decode?_encode]
    dsimp only
    rw [Fallible.ok_bind, Text.cutLast_append_cons _ s.at_not_mem_place]
    rfl

end Spelling

theorem account_account : Shadowsocks.account s.account = .ok (s.method, s.password) := by
  obtain ⟨c, method, hmethod⟩ := List.exists_cons_of_ne_nil s.method_ne_nil
  rw [Shadowsocks.account, account, Text.cut_append_cons s.method_plain, hmethod]

/-! ## The whole link -/

theorem dropWhile_slashes {t : Text} (h : t.getLast? ≠ some '/') (n : Nat) :
    ((t ++ List.replicate n '/').reverse.dropWhile (· = '/')).reverse = t := by
  have hslashes : ∀ c ∈ List.replicate n '/', decide (c = '/') = true := by simp
  rw [List.reverse_append, List.reverse_replicate, List.dropWhile_append_of_pos hslashes]
  cases hreverse : t.reverse with
  | nil => rw [← List.reverse_reverse t, hreverse]; rfl
  | cons c rest =>
    have hc : c ≠ '/' := by
      rintro rfl
      exact h (by rw [← List.head?_reverse, hreverse]; rfl)
    rw [List.dropWhile_cons_of_neg (by simpa using hc), ← hreverse, List.reverse_reverse]

namespace Writing

variable {s : Server} (w : s.Writing)

theorem quoted_of_query {q : Text} (h : w.query = some q) :
    ∃ shown p, q = "plugin".toList ++ '=' :: shown ∧ s.plugin = some p ∧
      Url.Query.Quoted shown p := by
  obtain ⟨shown, hshown, rfl⟩ := Option.map_eq_some_iff.mp h
  have hquoted := w.plugin_quoted
  rw [hshown] at hquoted
  cases hplugin : s.plugin with
  | none => rw [hplugin] at hquoted; cases hquoted
  | some p =>
    rw [hplugin] at hquoted
    cases hquoted with
    | some hquoted => exact ⟨shown, p, rfl, rfl, hquoted⟩

theorem visible_query : ∀ q ∈ w.query, Text.Visible q := by
  intro q hq
  obtain ⟨shown, p, rfl, -, hquoted⟩ := w.quoted_of_query hq
  have hname : Text.Visible "plugin".toList := Text.forall_mem_of_all (by decide)
  exact hname.append (.cons (by decide) hquoted.visible)

theorem hash_not_mem_query : '#' ∉ Url.marked '?' w.query := by
  cases hquery : w.query with
  | none => exact List.not_mem_nil
  | some q =>
    obtain ⟨shown, p, rfl, -, hquoted⟩ := w.quoted_of_query hquery
    have hshown := hquoted.plain '#' (by decide)
    simp [Url.marked, hshown]

theorem visible_link : Text.Visible w.link := by
  have hmain := w.main_spells.visible
  have hslashes : Text.Visible (List.replicate w.slashes '/') := by
    intro c hc
    rw [List.eq_of_mem_replicate hc]
    decide
  have hquery := Url.Written.visible_marked '?' (by decide) w.visible_query
  have hfragment := Url.Written.visible_marked '#' (by decide) w.fragment_visible
  have hidentifier : Text.Visible "ss://".toList := Text.forall_mem_of_all (by decide)
  exact hidentifier.append (((hmain.append hslashes).append hquery).append hfragment)

theorem ofText_body :
    Body.ofText w.body = ⟨w.main, w.query.getD [], w.fragment.getD []⟩ := by
  have hplain : ∀ c ∈ ['?', '#'], c ∉ w.main ++ List.replicate w.slashes '/' := by
    intro c hc hmem
    rcases List.mem_append.mp hmem with hmem | hmem
    · exact w.main_spells.not_mem hc hmem
    · rw [List.eq_of_mem_replicate hmem] at hc
      exact absurd hc (by decide)
  have hhash : '#' ∉ w.main ++ List.replicate w.slashes '/' ++ Url.marked '?' w.query := by
    rw [List.mem_append, not_or]
    exact ⟨hplain '#' (by decide), w.hash_not_mem_query⟩
  unfold Body.ofText body
  rw [Url.cut_marked hhash]
  dsimp only
  rw [Url.cut_marked (hplain '?' (by decide))]
  dsimp only
  rw [dropWhile_slashes w.main_spells.getLast?_ne_slash]

theorem readFields_query : readFields fields (Url.Query.parameters (w.query.getD [])) =
    (s.plugin.map fun p => ("plugin".toList, Detail.ofText p)).toList := by
  cases hquery : w.query with
  | none =>
    have hnone : s.plugin = none := by
      have hquoted := w.plugin_quoted
      rw [Option.map_eq_none_iff.mp hquery] at hquoted
      cases hplugin : s.plugin with
      | none => rfl
      | some p => rw [hplugin] at hquoted; cases hquoted
    rw [hnone]
    rfl
  | some q =>
    obtain ⟨shown, p, rfl, hplugin, hquoted⟩ := w.quoted_of_query hquery
    rw [hplugin, Option.getD_some, Url.Query.parameters_pair (by rfl) (by decide) hquoted]
    rfl

theorem parse_link : parse w.link = .ok s.summary := by
  have hstrip : stripIdentifier protocol identifiers w.link = .ok w.body :=
    stripIdentifier_append (Text.forall_mem_of_all (by decide)) (by rfl)
  have hnetloc : s.url.netloc ++ (Url.marked '?' s.url.query ++ Url.marked '#' s.url.fragment) =
      s.place := List.append_nil _
  have hsplit : Url.split ('/' :: '/' :: s.place) = .ok { s.url.parts with scheme := [] } :=
    hnetloc ▸ s.url.split_reference
  have hhost : Url.Parts.host { s.url.parts with scheme := [] } = s.host := s.url.host_parts
  have hport : Url.Parts.port { s.url.parts with scheme := [] } = .ok s.port := s.url.port_parts
  have hempty : s.host.isEmpty = false := by simpa using s.host_ne_nil
  have hcolon : ':' ∉ s.host := fun h => by cases s.host_chars ':' h
  have hremark : Percent.unescape (w.fragment.getD []) = s.remark :=
    Percent.unescape_of_spelled w.fragment_spells
  have hdetails : Details.update [("method", Detail.ofText s.method),
      ("password", Detail.ofText s.password)]
      (s.plugin.map fun p => ("plugin".toList, Detail.ofText p)).toList = s.summary.details := by
    unfold summary
    cases s.plugin <;> rfl
  unfold parse
  rw [hstrip, Fallible.ok_bind, w.ofText_body]
  dsimp only
  rw [w.main_spells.sides_eq, Fallible.ok_bind]
  dsimp only
  rw [s.account_account, Fallible.ok_bind]
  dsimp only
  rw [hsplit, Fallible.mapError_ok, Fallible.ok_bind, hhost, hport, Fallible.mapError_ok, hempty,
    w.readFields_query, hremark, hdetails, if_neg Bool.false_ne_true, Fallible.ok_bind,
    address_ofText hcolon]
  rfl

end Writing

/-- **All links of a server are decoded to one summary.** -/
theorem decode_server (w : s.Writing) : Registry.default.decode w.link = .ok s.summary := by
  have hvisible := w.visible_link
  have hfind : Registry.default.find? w.link = some decoder :=
    find?_of_filter hvisible.trimStart hvisible.ascii (by rfl) fun rest => by rfl
  exact decode_of_parse hvisible.trim hfind w.parse_link

theorem spelling_component : s.Spelling (Percent.component s.account ++ '@' :: s.place) := by
  have hchars : ∀ c ∈ Percent.component s.account, Url.isUserInfoChar c = true := fun c hc =>
    Credential.isUserInfoChar_of_mem_component hc
  refine .escaped (Percent.spelled_component s.account)
    (fun c hc => (Url.isUserInfoChar_iff.mp (hchars c hc)).1) fun c hc hmem => ?_
  have hdelimiter : c ∈ "/?#[]".toList := by
    rcases List.mem_cons.mp hc with rfl | hc
    · decide
    · rw [List.mem_singleton.mp hc]
      decide
  exact (Url.isUserInfoChar_iff.mp (hchars c hmem)).2 hdelimiter

/-- A server whose password holds the delimiters of a link. -/
def delimited : Server where
  method := "m"
  password := "?>@é"
  host := "h-2.x"
  port := some 443
  plugin := some "v2;tls=1 &"
  remark := "r #"
  method_ne_nil := by decide
  method_plain := by decide
  host_ne_nil := by decide
  host_chars := Text.forall_mem_of_all (by decide)
  port_le := by decide

/-- A link of it for each spelling of the account. -/
def delimitedWriting {main : Text} (h : delimited.Spelling main) : delimited.Writing where
  main := main
  slashes := 1
  plugin := some (Url.Query.escape "v2;tls=1 &")
  fragment := some (Percent.component "r #")
  main_spells := h
  plugin_quoted := .some (Url.Query.quoted_escape _)
  fragment_spells := Percent.spelled_component _
  fragment_visible := by
    rintro f ⟨⟩
    exact Text.forall_mem_of_all (by decide)

theorem decode_server_delimited :
    ["m%3A%3F%3E%40%C3%A9@h-2.x:443".toList, "bTo/PkDDqQ==@h-2.x:443".toList,
      "bTo_PkDDqUBoLTIueDo0NDM".toList].map (fun main => Registry.default.decode
        ("ss://".toList ++ main ++ "/?plugin=v2%3Btls%3D1+%26#r%20%23".toList)) =
      List.replicate 3 (.ok {
        protocol := "shadowsocks".toList
        remark := .ofText "r #"
        address := .ofText "h-2.x:443"
        details := [("method", .text (.ofText "m")), ("password", .text (.ofText "?>@é")),
          ("plugin", .text (.ofText "v2;tls=1 &"))] }) := by
  have hform {main : Text} (h : delimited.Spelling main) :=
    decode_server delimited (delimitedWriting h)
  have hescaped := hform delimited.spelling_component
  have hencoded := hform
    (.encoded (.spelled .standard "bTo/PkDDqQ==".toList 0 (by decide +kernel)))
  have hwhole := hform
    (.whole (.spelled .urlSafe "bTo_PkDDqUBoLTIueDo0NDM".toList 1 (by decide +kernel)))
  exact congrArg₂ List.cons hescaped (congrArg₂ List.cons hencoded (congrArg₂ List.cons hwhole rfl))

end Server

end LinkHarvest.Link.Shadowsocks
