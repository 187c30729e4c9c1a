import LinkHarvest.Proofs.Fallible
import LinkHarvest.Proofs.Json.Rendering
import LinkHarvest.Proofs.Link.Dispatch
import LinkHarvest.Proofs.Link.Fields
import LinkHarvest.Proofs.Text.Base64

/-!
# Vmess links written and read back

What a vmess link states is a record: a server, maybe port and alternative id, maybe texts for the
other fields, and a remark (`Record`). A link writes it as a JSON object in base64, with the members
in any order and mixed with undeclared ones, each number as such or as its numeral (`Writing`).
Whatever JSON text renders the object and whatever base64 form the text has, the link is decoded to
the summary of the record (`decode_record`).
-/

namespace LinkHarvest.Link.Vmess

/-! ## Records -/

/-- What a vmess link states. -/
structure Record where
  server : LooseText
  port : Option Int
  id : Option LooseText
  alterId : Option Int
  network : Option LooseText
  headerType : Option LooseText
  host : Option LooseText
  path : Option LooseText
  tls : Option LooseText
  sni : Option LooseText
  remark : Option LooseText
  server_ne_nil : server ≠ []
  port_short : ∀ n ∈ port, (Text.ofNat n.natAbs).length ≤ Integer.digitLimit
  alterId_short : ∀ n ∈ alterId, (Text.ofNat n.natAbs).length ≤ Integer.digitLimit

/-- A declared field of a record: its key in the object, the attribute it sets, and what it says. -/
structure Column where
  key : Text
  target : Text
  detail : Option Detail

namespace Column

def details (cs : List Column) : Details :=
  cs.filterMap fun c => c.detail.map fun d => (c.target, d)

end Column

namespace Record

def columns (r : Record) : List Column :=
  [⟨"add", "server", some (.text r.server)⟩, ⟨"port", "port", r.port.map .int⟩,
   ⟨"id", "id", r.id.map .text⟩, ⟨"aid", "alter_id", r.alterId.map .int⟩,
   ⟨"net", "network", r.network.map .text⟩, ⟨"type", "header_type", r.headerType.map .text⟩,
   ⟨"host", "host", r.host.map .text⟩, ⟨"path", "path", r.path.map .text⟩,
   ⟨"tls", "tls", r.tls.map .text⟩, ⟨"sni", "sni", r.sni.map .text⟩]

def summary (r : Record) : Summary where
  protocol := "vmess"
  remark := r.remark.getD []
  address := Link.address r.server r.port
  details := Column.details r.columns

end Record

/-! ## Links of a record -/

/-- A JSON value says what a detail says. -/
inductive Says : Detail → Value → Prop
  | text (t : LooseText) : Says (.text t) (.text t)
  | integer (n : Int) : Says (.int n) (.int n)
  | numeral (n : Int) : Says (.int n) (.ofText (Text.ofInt n))

/-- What the members of an object hold under a key. -/
def Holds (ms : List (LooseText × Value)) (key : Text) : Option Detail → Prop
  | none => .ofText key ∉ ms.map Prod.fst
  | some d => ∃ v, Says d v ∧ (.ofText key, v) ∈ ms

/-- A way to write a record: the members of the object, of which any number may be undeclared, a
JSON text for it with white space around it, and a base64 form of the text. -/
structure Writing (r : Record) where
  members : List (LooseText × Value)
  json : Text
  before : Text
  after : Text
  form : Base64.Form (Utf8.encode (before ++ (json ++ after)))
  members_nodup : (members.map Prod.fst).Nodup
  columns_hold : ∀ c ∈ r.columns, Holds members c.key c.detail
  remark_holds : Holds members "ps" (r.remark.map .text)
  renders : Json.Renders json (.value (.map (Json.entriesAfter [] members)))
  before_space : Json.Space before
  after_space : Json.Space after

def Writing.link {r : Record} (w : Writing r) : Text := "vmess://".toList ++ w.form.text

/-! ## Fields -/

/-- A field of the grammar reads a column. -/
structure Reads (f : Field) (c : Column) : Prop where
  name : f.name = c.key
  target : f.attributeName = c.target
  text : ∀ t, c.detail = some (.text t) → f.kind = .text
  integer : ∀ n, c.detail = some (.int n) →
    f.kind = .integer ∧ (Text.ofNat n.natAbs).length ≤ Integer.digitLimit

namespace Reads

variable {f : Field} {key target : Text}

theorem ofText (o : Option LooseText) (hname : f.name = key) (htarget : f.attributeName = target)
    (hkind : f.kind = .text) : Reads f ⟨key, target, o.map .text⟩ where
  name := hname
  target := htarget
  text := fun _ _ => hkind
  integer := fun n hn => by cases o <;> cases hn

theorem ofInteger {o : Option Int} (hname : f.name = key) (htarget : f.attributeName = target)
    (hkind : f.kind = .integer)
    (hshort : ∀ n ∈ o, (Text.ofNat n.natAbs).length ≤ Integer.digitLimit) :
    Reads f ⟨key, target, o.map .int⟩ where
  name := hname
  target := htarget
  text := fun t ht => by cases o <;> cases ht
  integer := fun n hn => by
    obtain ⟨m, hm, heq⟩ := Option.map_eq_some_iff.mp hn
    cases heq
    exact ⟨hkind, hshort n hm⟩

end Reads

theorem ofValue?_of_says {kind : FieldKind} {d : Detail} {v : Value} (h : Says d v)
    (htext : ∀ t, d = .text t → kind = .text)
    (hinteger : ∀ n, d = .int n →
      kind = .integer ∧ (Text.ofNat n.natAbs).length ≤ Integer.digitLimit) :
    Field.ofValue? kind v = some d := by
  cases h with
  | text t =>
    rw [htext t rfl]
    rfl
  | integer n =>
    obtain ⟨rfl, hshort⟩ := hinteger n rfl
    exact (FieldValue.integer n hshort).ofValue?_written []
  | numeral n =>
    obtain ⟨rfl, hshort⟩ := hinteger n rfl
    exact (FieldValue.integer n hshort).ofValue?_written []

theorem detail?_of_holds {f : Field} {c : Column} {ms : List (LooseText × Value)}
    (hnodup : (ms.map Prod.fst).Nodup) (hreads : Reads f c) (hholds : Holds ms c.key c.detail) :
    Field.detail? (Json.entriesAfter [] ms) f = c.detail.map fun d => (c.target, d) := by
  have hread : f.read? (Json.entriesAfter [] ms) = c.detail := by
    rw [Field.read?, hreads.name]
    cases hdetail : c.detail with
    | none =>
      rw [hdetail] at hholds
      rw [Json.find?_entriesAfter_of_not_mem hholds]
      rfl
    | some d =>
      rw [hdetail] at hholds
      obtain ⟨v, hsays, hmem⟩ := hholds
      rw [Json.find?_entriesAfter hnodup hmem]
      exact ofValue?_of_says hsays (fun t ht => hreads.text t (by rw [hdetail, ht]))
        fun n hn => hreads.integer n (by rw [hdetail, hn])
  rw [Field.detail?, hread, hreads.target]

theorem Column.details_cons (c : Column) (cs : List Column) :
    Column.details (c :: cs) =
      (c.detail.map fun d => (c.target, d)).toList ++ Column.details cs := by
  unfold Column.details
  rw [List.filterMap_cons]
  cases c.detail <;> rfl

theorem filterMap_of_holds {fs : List Field} {cs : List Column} {ms : List (LooseText × Value)}
    (hnodup : (ms.map Prod.fst).Nodup) (hreads : List.Forall₂ Reads fs cs)
    (hholds : ∀ c ∈ cs, Holds ms c.key c.detail) :
    fs.filterMap (Field.detail? (Json.entriesAfter [] ms)) = Column.details cs := by
  induction hreads with
  | nil => rfl
  | @cons f c fs cs hreads _ ih =>
    obtain ⟨hc, hcs⟩ := List.forall_mem_cons.mp hholds
    rw [List.filterMap_cons, detail?_of_holds hnodup hreads hc, ih hcs, Column.details_cons]
    cases c.detail <;> rfl

theorem get?_details_of_not_mem {cs : List Column} {name : Text}
    (h : name ∉ cs.map Column.target) : (Column.details cs).get? name = none := by
  have hnone : (Column.details cs).find? (fun e => decide (e.1 = name)) = none := by
    refine List.find?_eq_none.mpr fun e he heq => h ?_
    obtain ⟨c, hc, hdetail⟩ := List.mem_filterMap.mp he
    obtain ⟨d, -, rfl⟩ := Option.map_eq_some_iff.mp hdetail
    exact List.mem_map.mpr ⟨c, hc, of_decide_eq_true heq⟩
  rw [Details.get?, hnone]
  rfl

theorem get?_details {cs : List Column} (hnodup : (cs.map Column.target).Nodup) {c : Column}
    (hc : c ∈ cs) : (Column.details cs).get? c.target = c.detail := by
  induction cs with
  | nil => cases hc
  | cons x cs ih =>
    obtain ⟨hx, hcs⟩ := List.nodup_cons.mp hnodup
    rw [Column.details_cons]
    rcases List.mem_cons.mp hc with rfl | hc
    · cases hdetail : c.detail with
      | none => exact get?_details_of_not_mem hx
      | some d => simp [Details.get?]
    · have hne : ¬x.target = c.target := fun heq => hx (List.mem_map.mpr ⟨c, hc, heq.symm⟩)
      have hrest := ih hcs hc
      cases x.detail with
      | none => exact hrest
      | some d =>
        rw [Details.get?] at hrest ⊢
        rw [Option.map_some, Option.toList_some, List.singleton_append,
          List.find?_cons_of_neg (by simpa using hne)]
        exact hrest

namespace Record

variable (r : Record)

theorem reads_columns : List.Forall₂ Reads fields r.columns := by
  exact .cons (.ofText (some r.server) rfl rfl rfl) <|
    .cons (.ofInteger rfl rfl rfl r.port_short) <| .cons (.ofText _ rfl rfl rfl) <|
    .cons (.ofInteger rfl rfl rfl r.alterId_short) <| .cons (.ofText _ rfl rfl rfl) <|
    .cons (.ofText _ rfl rfl rfl) <| .cons (.ofText _ rfl rfl rfl) <|
    .cons (.ofText _ rfl rfl rfl) <| .cons (.ofText _ rfl rfl rfl) <|
    .cons (.ofText _ rfl rfl rfl) .nil

theorem nodup_targets : (r.columns.map Column.target).Nodup := by
  change (["server".toList, "port".toList, "id".toList, "alter_id".toList, "network".toList,
    "header_type".toList, "host".toList, "path".toList, "tls".toList, "sni".toList]).Nodup
  decide

theorem get?_server : (Column.details r.columns).get? "server" = some (.text r.server) :=
  get?_details r.nodup_targets (c := ⟨"add", "server", some (.text r.server)⟩) (by simp [columns])

theorem port?_details : port? (Column.details r.columns) = r.port := by
  have hport : (Column.details r.columns).get? "port" = r.port.map .int :=
    get?_details r.nodup_targets (c := ⟨"port", "port", r.port.map .int⟩) (by simp [columns])
  rw [port?, hport]
  cases r.port <;> rfl

end Record

namespace Writing

variable {r : Record} (w : Writing r)

theorem summary_eq : Vmess.summary (Json.entriesAfter [] w.members) = .ok r.summary := by
  have hfields : readFields fields (Json.entriesAfter [] w.members) = Column.details r.columns := by
    rw [readFields_eq (by decide)]
    exact filterMap_of_holds w.members_nodup r.reads_columns w.columns_hold
  have hremark : remark (Json.entriesAfter [] w.members) = r.remark.getD [] := by
    have hholds := w.remark_holds
    unfold remark
    cases hr : r.remark with
    | none =>
      rw [hr] at hholds
      rw [Json.find?_entriesAfter_of_not_mem hholds]
      rfl
    | some t =>
      rw [hr] at hholds
      obtain ⟨v, hsays, hmem⟩ := hholds
      cases hsays
      rw [Json.find?_entriesAfter w.members_nodup hmem]
      cases t <;> rfl
  obtain ⟨c, rest, hserver⟩ := List.exists_cons_of_ne_nil r.server_ne_nil
  have hget := r.get?_server
  rw [hserver] at hget
  unfold Vmess.summary
  dsimp only
  rw [hfields, hget]
  dsimp only
  rw [r.port?_details, hremark, ← hserver]
  rfl

theorem trim_link : Text.trim w.link = "vmess://".toList ++ Text.trimEnd w.form.text := by
  have htight : Text.Tight "vmess://".toList := by
    constructor <;> rintro c ⟨⟩ <;> decide
  exact htight.trim_append (by simp) _

theorem ascii_link : ∀ c ∈ "vmess://".toList ++ Text.trimEnd w.form.text, c.toNat < 128 := by
  have hidentifier : ∀ c ∈ "vmess://".toList, c.toNat < 128 := Text.forall_mem_of_all (by decide)
  obtain ⟨v, -, heq⟩ := Text.exists_trimEnd w.form.text
  refine List.forall_mem_append.mpr ⟨hidentifier, fun c hc => w.form.isAscii_text c ?_⟩
  rw [heq]
  exact List.mem_append_left v hc

theorem parse_link :
    parse ("vmess://".toList ++ Text.trimEnd w.form.text) = .ok r.summary := by
  have hstrip : stripIdentifier protocol identifiers
      ("vmess://".toList ++ Text.trimEnd w.form.text) = .ok (Text.trimEnd w.form.text) :=
    stripIdentifier_append (Text.forall_mem_of_all (by decide)) (by rfl)
  have hdecode : Base64.decodeText? (Text.trimEnd w.form.text) =
      some (w.before ++ (w.json ++ w.after)) := by
    have hform := Base64.decodeText?_text w.form
    rw [Utf8.decode?_encode, Base64.decodeText?, Base64.compact] at hform
    rw [Base64.decodeText?, Base64.compact, Text.trim_trimEnd]
    exact hform
  have hread := Json.read_document w.renders w.before_space w.after_space
  unfold parse
  rw [hstrip, Fallible.ok_bind, hdecode]
  dsimp only
  rw [pure_bind, hread, Fallible.mapError_ok, Fallible.ok_bind]
  exact w.summary_eq

end Writing

/-- **Every link of a record is decoded to its summary.** -/
theorem decode_record (r : Record) (w : Writing r) :
    Registry.default.decode w.link = .ok r.summary := by
  have hstart : Text.trimStart ("vmess://".toList ++ Text.trimEnd w.form.text) =
      "vmess://".toList ++ Text.trimEnd w.form.text :=
    Text.trimStart_of_head (by rintro c ⟨⟩; decide)
  have hfind := find?_of_filter hstart w.ascii_link (d := decoder) (by rfl) fun rest => by rfl
  exact decode_of_parse w.trim_link hfind w.parse_link

def panel : Record where
  server := .ofText "h"
  port := some 443
  id := none
  alterId := some 0
  network := none
  headerType := none
  host := none
  path := none
  tls := none
  sni := none
  remark := some (.ofText "é")
  server_ne_nil := by decide
  port_short := by decide
  alterId_short := by decide

def panelMembers : List (LooseText × Value) :=
  [(.ofText "v", .list [.null]), (.ofText "add", .ofText "h"), (.ofText "port", .ofText "443"),
    (.ofText "aid", .int 0), (.ofText "ps", .ofText "é")]

/-- The port in quotes, a zero with a sign, a code in the remark, and a list under an undeclared
key. -/
def panelJson : Text :=
  "\x7b\"v\": [null],\"add\":\"h\",\"port\" :\"443\",\"aid\":-0,\"ps\":\"\\u00e9\"\x7d"

theorem renders_panelJson :
    Json.Renders panelJson (.value (.map (Json.entriesAfter [] panelMembers))) := by
  have hnil : Json.Space [] := nofun
  have hblank : Json.Space [' '] := by simp [Json.Space, Json.isSpace]
  have htext (t : Text)
      (h : t.all (fun c => decide (32 ≤ c.toNat ∧ c ≠ '"' ∧ c ≠ '\\')) = true) :=
    Json.Spells.ofText (Text.forall_mem_of_all h)
  have hlist : Json.Renders _ (.value (.list [.null])) :=
    .list hnil (.lastItem hnil (.word (w := "null".toList) (by simp [Json.words])))
  have hzero : Json.Renders _ (.value (.int 0)) :=
    .number ⟨true, ['0'], [], none, .inl rfl, List.forall_mem_nil _, by decide⟩
  have hremark : Json.Spells "\\u00e9".toList (.ofText "é") :=
    .code (n := 0xe9) (by decide) (fun h => absurd h (by decide)) .nil
  have hmembers : Json.Renders _ (.members panelMembers) :=
    .member (htext "v" (by decide)) hnil hblank hnil hnil hlist <|
    .member (htext "add" (by decide)) hnil hnil hnil hnil (.string (htext "h" (by decide))) <|
    .member (htext "port" (by decide)) hblank hnil hnil hnil (.string (htext "443" (by decide))) <|
    .member (htext "aid" (by decide)) hnil hnil hnil hnil hzero <|
    .lastMember (htext "ps" (by decide)) hnil hnil hnil (.string hremark)
  have hmap := Json.Renders.map hnil hmembers
  convert hmap using 1
  decide +kernel

/-- The link in the URL-safe alphabet with a line break inside. -/
def panelWriting : Writing panel where
  members := panelMembers
  json := panelJson
  before := []
  after := []
  form := .spelled .urlSafe []
    "eyJ2IjogW251bGxdLCJhZGQiOiJoIiwi\ncG9ydCIgOiI0NDMiLCJhaWQiOi0wLCJwcyI6Ilx1MDBlOSJ9" [] 0
    Base64.Form.outer_nil (by decide +kernel)
  members_nodup := by decide
  columns_hold := by
    intro c hc
    fin_cases hc
    · exact ⟨_, .text _, .tail _ (.head _)⟩
    · exact ⟨_, .numeral 443, .tail _ (.tail _ (.head _))⟩
    rotate_left
    · exact ⟨_, .integer 0, .tail _ (.tail _ (.tail _ (.head _)))⟩
    all_goals
      change _ ∉ panelMembers.map Prod.fst
      decide
  remark_holds := ⟨_, .text _, .tail _ (.tail _ (.tail _ (.tail _ (.head _))))⟩
  renders := renders_panelJson
  before_space := nofun
  after_space := nofun

theorem decode_panel :
    panelWriting.link = ("vmess://eyJ2IjogW251bGxdLCJhZGQiOiJoIiwi\n" ++
      "cG9ydCIgOiI0NDMiLCJhaWQiOi0wLCJwcyI6Ilx1MDBlOSJ9").toList ∧
    Registry.default.decode panelWriting.link = .ok {
      protocol := "vmess".toList
      remark := .ofText "é"
      address := .ofText "h:443"
      details := [("server", .text (.ofText "h")), ("port", .int 443), ("alter_id", .int 0)] } :=
  ⟨by decide +kernel, decode_record panel panelWriting⟩

end LinkHarvest.Link.Vmess
