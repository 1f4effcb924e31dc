import Vault0.Keystore.Rows
import Mathlib.Data.List.Nodup

/-!
# Keystore: `List` and the scan a client runs with its tokens

`DBKeyStore.List(limit, nextToken)` reads `limit + 1` rows with ids above the token's
id, in ascending id order, scans them into keys, and hands them to `types.NewPage`,
which keeps `limit` of them and, when there were more, a token naming the last key it
kept. A client scans the keystore by calling `List(limit, "")` and then feeding each
returned token back until a page comes without one.

`types.NewPage` and the token codec live in `internal/types/page.go`, which is absent;
they are modelled from the spec and from the pagination guide the repository ships.
-/

namespace Vault0.Keystore

open Vault0Error

/-- `types.NextPageToken`: the column a page ends on and its value there; the keystore
puts the last key's id in it. -/
structure NextPageToken where
  column : String
  value : String
  deriving DecidableEq, Repr

/-- Modelled from the spec: `types.EncodeNextPageToken` and `types.DecodeNextPageToken`
(absent). The spec asks the base64 token to round-trip through encode and decode
without loss, and a base64 token is never the empty string. -/
structure TokenCodec where
  encode : NextPageToken → String
  decode : String → String → Except Vault0Error (Option NextPageToken)
  encode_ne_empty : ∀ t, encode t ≠ ""
  decode_encode : ∀ t, decode (encode t) t.column = .ok (some t)

/-- `types.Page`: the items, the token for the next page (`""` for none) and the limit. -/
structure Page (α : Type) where
  items : List α
  nextToken : String
  limit : Int

/-- Modelled from the spec: `types.NewPage` (absent). The query fetched `limit + 1`
items; when it got more than `limit`, the page keeps `limit` of them and a token built
from the last one kept, otherwise all of them and no token. -/
def newPage {α : Type} (codec : TokenCodec) (items : List α) (limit : Int)
    (generateToken : α → NextPageToken) : Page α :=
  if limit < items.length then
    let kept := items.take limit.toNat
    { items := kept
      nextToken := (kept.getLast?.map fun item => codec.encode (generateToken item)).getD ""
      limit }
  else { items, nextToken := "", limit }

/-- The page size `List` uses: `limit`, or 50 when it is not positive. -/
def effectiveLimit (limit : Int) : Int :=
  if limit ≤ 0 then 50 else limit

/-- `SELECT ... FROM keys [WHERE id > ?] ORDER BY id ASC LIMIT ?` on an `id`-ordered table. -/
def selectKeys (keys : List KeyRow) (after : Option String) (n : Int) : List KeyRow :=
  (keys.filter fun r => after.all (· < r.id)).take n.toNat

namespace DBKeyStore

/-- `DBKeyStore.List`: the keys after the token's id, `limit` of them (50 when `limit` is
not positive), with a token when more remain. -/
def list (codec : TokenCodec) (ks : DBKeyStore) (limit : Int) (nextToken : String) :
    Except Vault0Error (Page Key) := do
  let limit := effectiveLimit limit
  let after ← if nextToken ≠ "" then do
      let token ← codec.decode nextToken "id"
      pure (token.map (·.value))
    else pure none
  let keys ← (selectKeys ks.keys after (limit + 1)).mapM scanKey
  pure (newPage codec keys limit fun key => ⟨"id", key.id⟩)

end DBKeyStore

/-- A client's scan while the table may change between calls: the `i`-th `List` call
reads the `i`-th table; the scan starts from `token`, feeds each returned token into the
next call, and stops at the first page without one (or when the tables run out). -/
def scanOver (codec : TokenCodec) (limit : Int) :
    List DBKeyStore → String → Except Vault0Error (List (Page Key))
  | [], _ => .ok []
  | ks :: rest, token => do
    let page ← ks.list codec limit token
    if page.nextToken = "" then pure [page]
    else (page :: ·) <$> scanOver codec limit rest page.nextToken

/-- A client's scan of one unchanging table, for at most `calls` calls. -/
def scan (codec : TokenCodec) (ks : DBKeyStore) (limit : Int) (calls : Nat) :
    Except Vault0Error (List (Page Key)) :=
  scanOver codec limit (List.replicate calls ks) ""

/-- The token that resumes a scan after the id `after` (`""` from the start). -/
def tokenOf (codec : TokenCodec) : Option String → String
  | none => ""
  | some a => codec.encode ⟨"id", a⟩

/-- The ids a scan returned, in order. -/
def returnedIds (pages : List (Page Key)) : List String :=
  (pages.flatMap (·.items)).map (·.id)

/-! ## One call -/

section

open DBKeyStore

/-- A row scans into its key, or fails on its curve name. -/
theorem scanKey_cases (r : KeyRow) :
    (∃ c, scanKey r =
      .ok ⟨r.id, r.name, r.keyType, c, r.tags, ofUnixSeconds r.createdAt, [], r.publicKey⟩) ∨
    (∃ e, scanKey r = .error e ∧ r.curve ≠ "" ∧ curveByName r.curve = .error e) := by
  unfold scanKey
  by_cases h : r.curve = ""
  · exact .inl ⟨none, by simp [h]; rfl⟩
  · cases hc : curveByName r.curve with
    | error e => exact .inr ⟨e, by simp [h, hc], h, rfl⟩
    | ok c => exact .inl ⟨some c, by simp [h, hc]⟩

/-- A scanned key keeps its row's id. -/
theorem scanKey_id {r : KeyRow} {k : Key} (h : scanKey r = .ok k) : k.id = r.id := by
  rcases scanKey_cases r with ⟨c, hc⟩ | ⟨e, he, -⟩
  · rw [hc] at h; cases h; rfl
  · rw [he] at h; cases h

/-- Scanning rows keeps their ids, in order. -/
theorem mapM_scanKey_ids {rows : List KeyRow} {ds : List Key} (h : rows.mapM scanKey = .ok ds) :
    ds.map (·.id) = rows.map (·.id) := by
  induction rows generalizing ds with
  | nil => simp at h; cases h; rfl
  | cons r rs ih =>
    rw [List.mapM_cons] at h
    cases hr : scanKey r with
    | error e => rw [hr] at h; cases h
    | ok k =>
      cases hrs : rs.mapM scanKey with
      | error e => rw [hr, hrs] at h; cases h
      | ok ks =>
        rw [hr, hrs] at h; cases h
        simp [scanKey_id hr, ih hrs]

/-- A failed scan of rows fails on the curve name of one of them. -/
theorem mapM_scanKey_error {rows : List KeyRow} {e : Vault0Error} (h : rows.mapM scanKey = .error e) :
    ∃ r ∈ rows, r.curve ≠ "" ∧ curveByName r.curve = .error e := by
  induction rows with
  | nil => simp at h; cases h
  | cons r rs ih =>
    rw [List.mapM_cons] at h
    rcases scanKey_cases r with ⟨c, hc⟩ | ⟨e', he', hne, hce⟩
    · rw [hc] at h
      cases hrs : rs.mapM scanKey with
      | error e'' => 
        rw [hrs] at h; cases h
        obtain ⟨x, hx, h1⟩ := ih hrs
        exact ⟨x, List.mem_cons_of_mem _ hx, h1⟩
      | ok ks => rw [hrs] at h; cases h
    · rw [he'] at h; cases h
      exact ⟨r, List.mem_cons_self _ _, hne, hce⟩

theorem filter_gt_eq_drop {K : List KeyRow} (hK : K.Pairwise (fun a b => a.id < b.id))
    {j : Nat} (hj : j < K.length) :
    K.filter (fun r => (some K[j].id).all (· < r.id)) = K.drop (j + 1) := by
  induction K generalizing j with
  | nil => simp at hj
  | cons x xs ih =>
    rw [List.pairwise_cons] at hK
    cases j with
    | zero =>
      simp only [List.getElem_cons_zero, List.filter_cons, Option.all_some, lt_irrefl,
        decide_False, Bool.false_eq_true, ↓reduceIte, List.drop_succ_cons, List.drop_zero]
      exact List.filter_eq_self.mpr fun a ha => by simpa using hK.1 a ha
    | succ j =>
      have hj' : j < xs.length := by simpa using hj
      have hx : ¬ xs[j].id < x.id := not_lt.mpr (le_of_lt (hK.1 _ (List.getElem_mem hj')))
      simp only [List.getElem_cons_succ, List.filter_cons, Option.all_some, hx, decide_False,
        Bool.false_eq_true, ↓reduceIte, List.drop_succ_cons]
      exact ih hK.2 hj'

theorem list_tokenOf (codec : TokenCodec) (ks : DBKeyStore) (limit : Int) (after : Option String) :
    ks.list codec limit (tokenOf codec after) =
      ((selectKeys ks.keys after (effectiveLimit limit + 1)).mapM scanKey).map
        (fun keys => newPage codec keys (effectiveLimit limit) fun key => ⟨"id", key.id⟩) := by
  cases after with
  | none => simp [list, tokenOf]; rfl
  | some a =>
    have := codec.decode_encode ⟨"id", a⟩
    simp at this
    simp [list, tokenOf, codec.encode_ne_empty, this]; rfl

/-- `List` always asks for at least one row. -/
theorem effectiveLimit_pos (limit : Int) : 0 < effectiveLimit limit := by
  unfold effectiveLimit; split <;> omega

/-- The ids of the items `NewPage` keeps, and when it builds a token. -/
theorem newPage_spec {α : Type} (codec : TokenCodec) (items : List α) {limit : Int}
    (hpos : 0 < limit) (g : α → NextPageToken) :
    let page := newPage codec items limit g
    page.items = items.take limit.toNat ∧
    (page.nextToken = "" ↔ items.length ≤ limit.toNat) ∧
    ∀ x, (items.take limit.toNat).getLast? = some x → limit.toNat < items.length →
      page.nextToken = codec.encode (g x) := by
  unfold newPage
  by_cases h : limit < items.length
  · have hn : limit.toNat < items.length := by omega
    have hne : (items.take limit.toNat).getLast? ≠ none := by
      simp only [ne_eq, List.getLast?_eq_none_iff, List.take_eq_nil_iff, not_or]
      exact ⟨by omega, List.ne_nil_of_length_pos (by omega)⟩
    rw [if_pos h]
    refine ⟨rfl, ?_, fun x hx _ => by simp [hx]⟩
    obtain ⟨x, hx⟩ := Option.ne_none_iff_exists'.mp hne
    simp [hx, codec.encode_ne_empty]; omega
  · have hn : items.length ≤ limit.toNat := by omega
    rw [if_neg h]
    exact ⟨(List.take_of_length_le hn).symm, by simp [hn], fun _ _ h' => absurd h' (by omega)⟩

/-- One `List` call resuming after `after`: the page holds the first `n` keys above
`after`, in id order, and carries a token exactly when more remain, one naming the last
key it holds. -/
theorem list_ok {codec : TokenCodec} {ks : DBKeyStore} {limit : Int} {after : Option String}
    {page : Page Key} (h : ks.list codec limit (tokenOf codec after) = .ok page) :
    let n := (effectiveLimit limit).toNat
    let rest := ks.keys.filter fun r => after.all (· < r.id)
    page.items.map (·.id) = (rest.take n).map (·.id) ∧
    (page.nextToken = "" ↔ rest.length ≤ n) ∧
    ∀ r, (rest.take n).getLast? = some r → n < rest.length →
      page.nextToken = tokenOf codec (some r.id) := by
  intro n rest
  have hpos := effectiveLimit_pos limit
  rw [list_tokenOf] at h
  cases hm : (selectKeys ks.keys after (effectiveLimit limit + 1)).mapM scanKey with
  | error e => rw [hm] at h; cases h
  | ok ds =>
    rw [hm] at h
    simp only [Except.map, Except.ok.injEq] at h
    subst h
    have hwin : selectKeys ks.keys after (effectiveLimit limit + 1) = rest.take (n + 1) := by
      simp only [selectKeys, rest, n]; congr 1; omega
    have hids : ds.map (·.id) = (rest.take (n + 1)).map (·.id) := hwin ▸ mapM_scanKey_ids hm
    have hlen : ds.length = min (n + 1) rest.length := by
      simpa using congrArg List.length hids
    obtain ⟨hitems, htok, hlast⟩ :=
      newPage_spec codec ds hpos (fun key : Key => (⟨"id", key.id⟩ : NextPageToken))
    have hpre : (ds.take n).map (·.id) = (rest.take n).map (·.id) := by
      rw [List.map_take, hids, ← List.map_take, List.take_take, min_eq_left (by omega)]
    refine ⟨hitems ▸ hpre, htok.trans (by omega), fun r hr hn => ?_⟩
    have hlastIds := congrArg List.getLast? hpre
    rw [List.getLast?_map, List.getLast?_map, hr] at hlastIds
    obtain ⟨x, hx, hxr⟩ := Option.map_eq_some'.mp hlastIds
    rw [hlast x hx (by omega)]
    simp [tokenOf, hxr]

/-- A failed `List` call reports the invalid curve of a stored row it had to scan. -/
theorem list_error {codec : TokenCodec} {ks : DBKeyStore} {limit : Int} {after : Option String}
    {e : Vault0Error} (h : ks.list codec limit (tokenOf codec after) = .error e) :
    ∃ r ∈ ks.keys, r.curve ≠ "" ∧ curveByName r.curve = .error e := by
  rw [list_tokenOf] at h
  cases hm : (selectKeys ks.keys after (effectiveLimit limit + 1)).mapM scanKey with
  | error e' =>
    rw [hm] at h
    simp only [Except.map, Except.error.injEq] at h
    subst h
    obtain ⟨r, hr, hbad⟩ := mapM_scanKey_error hm
    exact ⟨r, List.mem_of_mem_filter (List.mem_of_mem_take hr), hbad⟩
  | ok ds => rw [hm] at h; cases h

/-- One step of a scan: the call's page, then either the end or the rest of the scan. -/
theorem scanOver_cons (codec : TokenCodec) (limit : Int) (ks : DBKeyStore)
    (rest : List DBKeyStore) (token : String) :
    scanOver codec limit (ks :: rest) token =
      match ks.list codec limit token with
      | .error e => .error e
      | .ok page =>
        if page.nextToken = "" then .ok [page]
        else (page :: ·) <$> scanOver codec limit rest page.nextToken := by
  simp only [scanOver]
  cases ks.list codec limit token <;> rfl

/-- In an id-ordered list, a member lies at or before the last entry. -/
theorem le_of_getLast? {l : List KeyRow} (hl : l.Pairwise (fun a b => a.id < b.id))
    {x y : KeyRow} (hx : x ∈ l) (hy : l.getLast? = some y) : x.id ≤ y.id := by
  have hne : l ≠ [] := fun h => by simp [h] at hx
  rw [List.getLast?_eq_getLast l hne, Option.some.injEq] at hy
  subst hy
  rw [← List.dropLast_append_getLast hne] at hl hx
  rcases List.mem_append.mp hx with hx | hx
  · exact le_of_lt (List.pairwise_append.mp hl |>.2.2 x hx _ (List.mem_singleton_self _))
  · rw [List.mem_singleton.mp hx]

/-- In an id-ordered list, a member at or before the last entry of a prefix lies in it. -/
theorem mem_take_of_le {l : List KeyRow} (hl : l.Pairwise (fun a b => a.id < b.id)) {n : Nat}
    {x y : KeyRow} (hx : x ∈ l) (hy : (l.take n).getLast? = some y) (hxy : x.id ≤ y.id) :
    x ∈ l.take n := by
  rw [← List.take_append_drop n l] at hl hx
  rcases List.mem_append.mp hx with hx | hx
  · exact hx
  · have hy' : y ∈ l.take n := List.mem_of_getLast?_eq_some hy
    exact absurd hxy (not_le.mpr (List.pairwise_append.mp hl |>.2.2 y hy' x hx))

theorem returnedIds_cons (page : Page Key) (pages : List (Page Key)) :
    returnedIds (page :: pages) = page.items.map (·.id) ++ returnedIds pages := by
  simp [returnedIds]

/-- What a completed scan of an unchanging table returns from some point on: the keys
`keys`, each once and in id order, in pages of at most `n` keys, a token on exactly the
pages that more keys follow, and a last page without one. -/
structure CompleteScan (keys : List KeyRow) (n : Nat) (pages : List (Page Key)) : Prop where
  ids : returnedIds pages = keys.map (·.id)
  page_size : ∀ page ∈ pages, page.items.length ≤ n
  token_iff : ∀ i (h : i < pages.length),
    pages[i].nextToken ≠ "" ↔ returnedIds (pages.drop (i + 1)) ≠ []
  last : pages.getLast?.map (·.nextToken) = some ""

/-- A page of the first `n` keys, with a token since more keys follow, then a complete scan
of the rest, is a complete scan. -/
theorem CompleteScan.cons {keys : List KeyRow} {n : Nat} {page : Page Key}
    {pages : List (Page Key)} (hids : page.items.map (·.id) = (keys.take n).map (·.id))
    (hsize : page.items.length ≤ n) (htok : page.nextToken ≠ "") (hmore : n < keys.length)
    (hrest : CompleteScan (keys.drop n) n pages) : CompleteScan keys n (page :: pages) := by
  have hne : returnedIds pages ≠ [] := by
    rw [hrest.ids]; simpa using hmore
  refine ⟨?_, ?_, fun i hi => ?_, ?_⟩
  · rw [returnedIds_cons, hids, hrest.ids, ← List.map_append, List.take_append_drop]
  · intro q hq
    rcases List.mem_cons.mp hq with rfl | hq
    · exact hsize
    · exact hrest.page_size q hq
  · cases i with
    | zero => simpa [htok] using hne
    | succ i => simpa using hrest.token_iff i (by simpa using hi)
  · have hpages : pages ≠ [] := fun h => hne (by simp [h, returnedIds])
    rw [List.getLast?_cons, ← hrest.last]
    cases pages with
    | nil => exact absurd rfl hpages
    | cons q qs => simp [List.getLast?_cons]

/-- The scan of an unchanging table resumed at position `p`, with more calls left than
keys after `p`, completes or stops at a row it cannot scan. -/
theorem scanOver_replicate {codec : TokenCodec} {ks : DBKeyStore} {limit : Int} :
    ∀ (calls p : Nat) (after : Option String),
    (ks.keys.filter fun r => after.all (· < r.id)) = ks.keys.drop p →
    ks.keys.length - p < calls →
    match scanOver codec limit (List.replicate calls ks) (tokenOf codec after) with
    | .ok pages => CompleteScan (ks.keys.drop p) (effectiveLimit limit).toNat pages
    | .error e => ∃ r ∈ ks.keys, r.curve ≠ "" ∧ curveByName r.curve = .error e
  | 0, _, _, _, hc => absurd hc (Nat.not_lt_zero _)
  | calls + 1, p, after, hrest, hc => by
    rw [List.replicate_succ, scanOver_cons]
    cases hl : ks.list codec limit (tokenOf codec after) with
    | error e => exact list_error hl
    | ok page =>
      obtain ⟨hids, htok, hlast⟩ := list_ok hl
      simp only [hrest] at hids htok hlast
      have hn : 0 < (effectiveLimit limit).toNat := by have := effectiveLimit_pos limit; omega
      generalize hn_eq : (effectiveLimit limit).toNat = n at hids htok hlast hn ⊢
      have hsize : page.items.length ≤ n := by
        have := congrArg List.length hids
        simp only [List.length_map, List.length_take] at this
        omega
      by_cases hfin : page.nextToken = ""
      · -- the last page holds every remaining key
        have hall := List.take_of_length_le (htok.mp hfin)
        simp only [hfin, ↓reduceIte]
        refine ⟨by simp [returnedIds, hids, hall], by simpa using hsize, ?_, by simp [hfin]⟩
        intro i hi
        obtain rfl : i = 0 := by simpa using hi
        simp [hfin, returnedIds]
      · -- a full page: the scan resumes after its last key
        simp only [hfin, ↓reduceIte]
        have hgt : n < (ks.keys.drop p).length := not_le.mp (mt htok.mpr hfin)
        have hgt' : n < ks.keys.length - p := by simpa using hgt
        have hj : p + (n - 1) < ks.keys.length := by omega
        have hr : ((ks.keys.drop p).take n).getLast? = some ks.keys[p + (n - 1)] := by
          simp [List.getLast?_take, Nat.pos_iff_ne_zero.mp hn, List.getElem?_drop,
            List.getElem?_eq_getElem hj]
        have hrest' := filter_gt_eq_drop ks.sorted hj
        rw [show p + (n - 1) + 1 = p + n by omega] at hrest'
        have ih := @scanOver_replicate codec ks limit calls (p + n) _ hrest' (by omega)
        rw [hn_eq] at ih
        rw [hlast _ hr hgt]
        cases hs : scanOver codec limit (List.replicate calls ks)
            (tokenOf codec (some ks.keys[p + (n - 1)].id)) with
        | error e => rw [hs] at ih; exact ih
        | ok pages =>
          rw [hs, ← List.drop_drop] at ih
          exact CompleteScan.cons hids hsize hfin hgt ih

private theorem cons_map_eq_ok {page : Page Key} {x : Except Vault0Error (List (Page Key))}
    {pages : List (Page Key)} (h : (page :: ·) <$> x = .ok pages) :
    ∃ pages', x = .ok pages' ∧ pages = page :: pages' := by
  cases x with
  | error e => cases h
  | ok pages' => exact ⟨pages', rfl, by cases h; rfl⟩

private theorem all_lt_trans {after : Option String} {a b : String}
    (ha : after.all (· < a)) (hab : a < b) : after.all (· < b) := by
  cases after <;> simp_all only [Option.all_some, Option.all_none, decide_eq_true_eq]
  exact lt_trans ha hab

/-- The rows above `after` in an `id`-ordered table are in `id` order. -/
private theorem filter_sorted (ks : DBKeyStore) (after : Option String) :
    (ks.keys.filter fun r => after.all (· < r.id)).Pairwise (fun a b => a.id < b.id) :=
  ks.sorted.sublist (List.filter_sublist _)

private theorem exists_getLast?_take {l : List KeyRow} {n : Nat} (hn : 0 < n)
    (hl : n < l.length) : ∃ r, (l.take n).getLast? = some r := by
  cases hr : (l.take n).getLast? with
  | none =>
    simp only [List.getLast?_eq_none_iff, List.take_eq_nil_iff] at hr
    rcases hr with hr | rfl
    · omega
    · simp at hl
  | some r => exact ⟨r, rfl⟩

/-- A scan that succeeded, at its first call: the call's page, and either it is the last
page, or more rows remain and the scan goes on after the last key the page holds. -/
theorem scanOver_cons_ok {codec : TokenCodec} {limit : Int} {ks : DBKeyStore}
    {rest : List DBKeyStore} {after : Option String} {pages : List (Page Key)}
    (h : scanOver codec limit (ks :: rest) (tokenOf codec after) = .ok pages) :
    ∃ page, ks.list codec limit (tokenOf codec after) = .ok page ∧
      ((page.nextToken = "" ∧ pages = [page]) ∨
        ∃ r pages', page.nextToken ≠ "" ∧
          ((ks.keys.filter fun r => after.all (· < r.id)).take
            (effectiveLimit limit).toNat).getLast? = some r ∧
          scanOver codec limit rest (tokenOf codec (some r.id)) = .ok pages' ∧
          pages = page :: pages') := by
  rw [scanOver_cons] at h
  cases hl : ks.list codec limit (tokenOf codec after) with
  | error e => rw [hl] at h; cases h
  | ok page =>
    rw [hl] at h
    refine ⟨page, rfl, ?_⟩
    by_cases hfin : page.nextToken = ""
    · simp only [hfin, ↓reduceIte, Except.ok.injEq] at h
      exact .inl ⟨hfin, h.symm⟩
    · simp only [hfin, ↓reduceIte] at h
      obtain ⟨pages', hs, rfl⟩ := cons_map_eq_ok h
      obtain ⟨-, htok, hlast⟩ := list_ok hl
      have hn : 0 < (effectiveLimit limit).toNat := by have := effectiveLimit_pos limit; omega
      have hgt := not_le.mp (mt htok.mpr hfin)
      obtain ⟨r, hr⟩ := exists_getLast?_take hn hgt
      rw [hlast r hr hgt] at hs
      exact .inr ⟨r, pages', hfin, hr, hs, rfl⟩

/-- Whatever tables the calls read, a scan returns keys in strictly ascending id order,
all above the id it resumed after. -/
theorem scanOver_ids_ascending {codec : TokenCodec} {limit : Int} :
    ∀ (tables : List DBKeyStore) (after : Option String) (pages : List (Page Key)),
    scanOver codec limit tables (tokenOf codec after) = .ok pages →
    (returnedIds pages).Pairwise (· < ·) ∧ ∀ id ∈ returnedIds pages, after.all (· < id)
  | [], _, pages, h => by
    simp only [scanOver, Except.ok.injEq] at h; subst h; simp [returnedIds]
  | ks :: rest, after, pages, h => by
    obtain ⟨page, hl, hpages⟩ := scanOver_cons_ok h
    obtain ⟨hids, -, -⟩ := list_ok hl
    generalize (effectiveLimit limit).toNat = n at hids hpages
    have hsorted := filter_sorted ks after
    have habove : ∀ r ∈ ks.keys.filter (fun r => after.all (· < r.id)), after.all (· < r.id) :=
      fun r hr => (List.mem_filter.mp hr).2
    generalize ks.keys.filter (fun r => after.all (· < r.id)) = restK at hids hpages hsorted habove
    have hpage : (page.items.map (·.id)).Pairwise (· < ·) ∧
        ∀ id ∈ page.items.map (·.id), after.all (· < id) := by
      rw [hids, List.pairwise_map]
      refine ⟨hsorted.sublist (List.take_sublist _ _), fun id hid => ?_⟩
      obtain ⟨r, hr, rfl⟩ := List.mem_map.mp hid
      exact habove r (List.mem_of_mem_take hr)
    rcases hpages with ⟨-, rfl⟩ | ⟨r, pages', -, hr, hs, rfl⟩
    · simpa [returnedIds] using hpage
    · obtain ⟨ih_sorted, ih_above⟩ := scanOver_ids_ascending rest (some r.id) pages' hs
      have hr_mem : r ∈ restK.take n := List.mem_of_getLast?_eq_some hr
      rw [returnedIds_cons, List.pairwise_append]
      refine ⟨⟨hpage.1, ih_sorted, fun a ha b hb => ?_⟩, fun id hid => ?_⟩
      · have hb' : r.id < b := by simpa using ih_above b hb
        rw [hids] at ha
        obtain ⟨x, hx, rfl⟩ := List.mem_map.mp ha
        exact lt_of_le_of_lt (le_of_getLast? (hsorted.sublist (List.take_sublist _ _)) hx hr) hb'
      · rcases List.mem_append.mp hid with hid | hid
        · exact hpage.2 id hid
        · exact all_lt_trans (habove r (List.mem_of_mem_take hr_mem)) (by simpa using ih_above id hid)

/-- A completed scan returns every key present in every table it read, whatever the
tables in between. -/
theorem scanOver_returns_present {codec : TokenCodec} {limit : Int} :
    ∀ (tables : List DBKeyStore) (after : Option String) (pages : List (Page Key)),
    scanOver codec limit tables (tokenOf codec after) = .ok pages →
    pages.getLast?.map (·.nextToken) = some "" →
    ∀ id, (∀ ks ∈ tables.take pages.length, ∃ r ∈ ks.keys, r.id = id) →
    after.all (· < id) → id ∈ returnedIds pages
  | [], _, pages, h, hend, _, _, _ => by
    simp only [scanOver, Except.ok.injEq] at h; subst h; simp at hend
  | ks :: rest, after, pages, h, hend, id, hpresent, habove_id => by
    obtain ⟨page, hl, hpages⟩ := scanOver_cons_ok h
    obtain ⟨hids, htok, -⟩ := list_ok hl
    have hsorted := filter_sorted ks after
    have hlen : 0 < pages.length := by
      rcases hpages with ⟨-, rfl⟩ | ⟨_, _, -, -, -, rfl⟩ <;> simp
    obtain ⟨x, hx, rfl⟩ := hpresent ks (by
      rw [← Nat.succ_pred_eq_of_pos hlen, List.take_succ_cons]; exact List.mem_cons_self _ _)
    have hxK : x ∈ ks.keys.filter (fun r => after.all (· < r.id)) :=
      List.mem_filter.mpr ⟨hx, by simpa using habove_id⟩
    generalize (effectiveLimit limit).toNat = n at hids htok hpages
    generalize ks.keys.filter (fun r => after.all (· < r.id)) = restK at hids htok hpages hsorted hxK
    rcases hpages with ⟨hfin, rfl⟩ | ⟨r, pages', hfin, hr, hs, rfl⟩
    · rw [returnedIds_cons, hids, List.take_of_length_le (htok.mp hfin)]
      exact List.mem_append_left _ (List.mem_map_of_mem (·.id) hxK)
    · rw [returnedIds_cons, List.mem_append]
      by_cases hle : x.id ≤ r.id
      · left
        rw [hids]
        exact List.mem_map_of_mem (·.id) (mem_take_of_le hsorted hxK hr hle)
      · right
        have hpages' : pages' ≠ [] := by
          rintro rfl; simp [hfin] at hend
        refine scanOver_returns_present rest (some r.id) pages' hs ?_ x.id
          (fun ks' hks' => hpresent ks' ?_) (by simpa using not_le.mp hle)
        · obtain ⟨l, hl'⟩ := Option.ne_none_iff_exists'.mp (mt List.getLast?_eq_none_iff.mp hpages')
          rw [List.getLast?_cons, hl'] at hend
          simpa [hl'] using hend
        · simpa [List.take_succ_cons] using List.mem_cons_of_mem ks hks'

end

/-! ## A client's scan -/

/-- A client's scan of any table with any page size, `List(limit, "")` first and each
returned token fed back: on an unchanging table it ends within one call more than there
are keys, either with every key once, in id order, in pages of at most the page size and
with a token on exactly the pages more keys follow, or with the invalid-curve error of a
stored row. While the table changes between calls, the keys come back in strictly
ascending id order, and a completed scan returns every key present throughout exactly
once. -/
theorem scan_complete_or_unreadable_row (codec : TokenCodec) (ks : DBKeyStore) (limit : Int) :
    (match scan codec ks limit (ks.keys.length + 1) with
      | .ok pages => CompleteScan ks.keys (effectiveLimit limit).toNat pages
      | .error e => ∃ r ∈ ks.keys, r.curve ≠ "" ∧ curveByName r.curve = .error e) ∧
    ∀ (tables : List DBKeyStore) (pages : List (Page Key)),
      scanOver codec limit tables "" = .ok pages →
      (returnedIds pages).Pairwise (· < ·) ∧
      (pages.getLast?.map (·.nextToken) = some "" →
        ∀ id, (∀ t ∈ tables.take pages.length, ∃ r ∈ t.keys, r.id = id) →
          (returnedIds pages).count id = 1) := by
  refine ⟨?_, fun tables pages h => ?_⟩
  · have := @scanOver_replicate codec ks limit (ks.keys.length + 1) 0 none (by simp) (by omega)
    simpa [scan] using this
  · obtain ⟨hasc, -⟩ := scanOver_ids_ascending tables none pages h
    exact ⟨hasc, fun hend id hpresent => List.count_eq_one_of_mem hasc.nodup
      (scanOver_returns_present tables none pages h hend id hpresent rfl)⟩

/-- A token codec for concrete runs: `column:value`, read back against the expected
column. -/
def columnCodec : TokenCodec where
  encode t := t.column ++ ":" ++ t.value
  decode s column :=
    if (column.data ++ [':']).isPrefixOf s.data then
      .ok (some ⟨column, ⟨s.data.drop (column.data.length + 1)⟩⟩)
    else .error ⟨"invalid_token", "Invalid page token"⟩
  encode_ne_empty t h := by
    have h1 := congrArg String.length h
    have : ":".length = 1 := rfl
    simp only [String.length_append] at h1
    exact absurd h1 (by simp [this])
  decode_encode t := by
    simp only [String.append, List.isPrefixOf_iff_prefix]
    have hdrop : t.column.data.drop (t.column.length + 1) = [] :=
      List.drop_eq_nil_of_le (by rw [show t.column.length = t.column.data.length from rfl]; omega)
    simp [List.drop_append_eq_append_drop, hdrop]

/-- A keystore holding one ECDSA key on P-384, as `Import` stores it. -/
def p384Store : DBKeyStore :=
  ⟨[⟨"7", "k", keyTypeECDSA, "P-384", [], 0, [1], [2]⟩], List.pairwise_singleton _ _⟩

/-- The scan of a keystore holding an imported P-384 key fails on its first call, so no
page returns that key. -/
theorem scan_p384_store_fails :
    scan columnCodec p384Store 10 2 =
      .error (newInvalidCurveError "P-256 or secp256k1" "P-384") := rfl

end Vault0.Keystore
