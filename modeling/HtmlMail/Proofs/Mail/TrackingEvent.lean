import HtmlMail.Mail.TrackingEvent
import HtmlMail.Proofs.Text.Digits
import HtmlMail.Proofs.Url.Form

/-!
# Tracking URLs report their event

A tracking URL is written into a mail by putting a query behind the URL of the site, and read by taking the query
apart. What connects the two is the query of an event: it is what is written, and it is read as the event.

* `TrackingEvent.ofQuery_formQuery`, `ofQuery_questionMark_formQuery` : a query is read by its pairs;
* `TrackingEvent.query` : the query of an event;
* `TrackingEvent.ofQuery_query` : the query of an event is read as this event;
* `Reports` : a URL reports an event if it is read off the text behind its first question mark;
* `reports_clickUrl` : the URL in front of a link reports the click, and the target whatever it is;
* `ofQuery_trackingUrls` : what is put into the URL of a click or of a web version is read off it again, with the
  question mark or without.
-/

namespace HtmlMail.Mail

/-- The name of an action is read as the action. -/
theorem TrackingAction.ofName?_name (action : TrackingAction) : ofName? action.name = some action := by
  cases action <;> decide

namespace TrackingEvent

variable {e : TrackingEvent}

/-- The pairs of keys and values that stand for an event. -/
def pairs (e : TrackingEvent) : List (String × String) :=
  ("i", toString e.mailId) :: ("a", e.action.name) ::
    ((e.value?.map ("v", ·)).toList ++ (e.auth?.map ("auth", ·)).toList)

/-- The query of an event. -/
def query (e : TrackingEvent) : String := Url.Form.query e.pairs

/-- **The pairs of an event** are read as this event, if its mail has a number that mails can have. -/
theorem ofPairs_pairs (hpos : 0 < e.mailId) (hlt : e.mailId < 2 ^ 64) : ofPairs e.pairs = .ok e := by
  obtain ⟨n, action, value?, auth?⟩ := e
  -- No key stands twice, so the last value of a key is the one that was written.
  have hid : lastValue? "i" (pairs ⟨n, action, value?, auth?⟩) = some (toString n) := by
    cases value? <;> cases auth? <;> rfl
  have haction : lastValue? "a" (pairs ⟨n, action, value?, auth?⟩) = some action.name := by
    cases value? <;> cases auth? <;> rfl
  have hvalue : lastValue? "v" (pairs ⟨n, action, value?, auth?⟩) = value? := by
    cases value? <;> cases auth? <;> rfl
  have hauth : lastValue? "auth" (pairs ⟨n, action, value?, auth?⟩) = auth? := by
    cases value? <;> cases auth? <;> rfl
  have hmail : mailId? (toString n) = some n := by
    rw [mailId?, Chars.unsigned64?_toString hlt, Option.filter_some, if_pos (decide_eq_true hpos)]
  simp only [ofPairs, hid, hmail, haction, TrackingAction.ofName?_name, hvalue, hauth]

/-- **A query** is read pair by pair, since it does not begin with a question mark. -/
theorem ofQuery_formQuery (pairs : List (String × String)) : ofQuery (Url.Form.query pairs) = ofPairs pairs := by
  have hbare : ['?'].isPrefixOf? (Url.Form.query pairs).toList = none := by
    cases h : ['?'].isPrefixOf? (Url.Form.query pairs).toList with
    | none => rfl
    | some rest =>
      -- The query would have to begin with a question mark.
      refine absurd ?_ (Url.Form.not_mem_query pairs)
      rw [Chars.eq_append_of_isPrefixOf? h]
      exact List.mem_cons_self
  simp only [ofQuery, hbare, Option.getD_none, String.ofList_toList]
  rw [Url.Form.pairs_query]

/-- So it is with its question mark. -/
theorem ofQuery_questionMark_formQuery (pairs : List (String × String)) :
    ofQuery ("?" ++ Url.Form.query pairs) = ofPairs pairs := by
  have hmark : ("?" ++ Url.Form.query pairs).toList = ['?'] ++ (Url.Form.query pairs).toList := String.toList_append
  have hbare : ['?'].isPrefixOf? ("?" ++ Url.Form.query pairs).toList = some (Url.Form.query pairs).toList := by
    rw [hmark]
    exact Chars.isPrefixOf?_append ['?'] _
  simp only [ofQuery, hbare, Option.getD_some, String.ofList_toList]
  rw [Url.Form.pairs_query]

/-- **The query of an event** is read as this event. -/
theorem ofQuery_query (hpos : 0 < e.mailId) (hlt : e.mailId < 2 ^ 64) : ofQuery e.query = .ok e := by
  rw [query, ofQuery_formQuery, ofPairs_pairs hpos hlt]

/-- So is the one with its question mark. -/
theorem ofQuery_questionMark (hpos : 0 < e.mailId) (hlt : e.mailId < 2 ^ 64) :
    ofQuery ("?" ++ e.query) = .ok e := by
  rw [query, ofQuery_questionMark_formQuery, ofPairs_pairs hpos hlt]

end TrackingEvent

/-! ### The URLs in a mail -/

/-- **A URL reports an event**: the event is read off the text behind its first question mark. -/
def Reports (url : String) (e : TrackingEvent) : Prop :=
  ∃ site query, url = site ++ "?" ++ query ∧ '?' ∉ site.toList ∧ TrackingEvent.ofQuery query = .ok e

variable {base target id key value : String} {n : Nat}

/-- A number is written in a query as it is. -/
theorem encode_toString (n : Nat) : Url.Form.encode (toString n) = toString n := by
  refine Url.Form.encode_of_isAlphanum (List.all_eq_true.2 fun c hc => ?_)
  rw [Chars.toList_toString] at hc
  rw [Char.isAlphanum, Nat.isDigit_of_mem_toDigits (by decide) (by decide) hc, Bool.or_true]

/-- So is the name of an action. -/
theorem encode_name (action : TrackingAction) : Url.Form.encode action.name = action.name := by
  cases action <;> exact Url.Form.encode_of_isAlphanum (by decide)

/-- **A tracking URL** ends in the query of a mail, an action and one more pair. -/
theorem trackingQuery_append (hid : Url.Form.encode id = id) (hkey : Url.Form.encode key = key)
    (action : TrackingAction) : trackingQuery id action ++ "&" ++ key ++ "=" ++ Url.Form.encode value =
      "?" ++ Url.Form.query [("i", id), ("a", action.name), (key, value)] := by
  have hi : Url.Form.encode "i" = "i" := Url.Form.encode_of_isAlphanum (by decide)
  have ha : Url.Form.encode "a" = "a" := Url.Form.encode_of_isAlphanum (by decide)
  apply String.toList_inj.1
  simp [trackingQuery, Url.Form.query, Url.Form.encodePair, hi, ha, hid, hkey, encode_name]

/-- The URL in front of a link has the query of a click. -/
theorem clickUrl_toString (base target : String) (n : Nat) : clickUrl base (toString n) target =
    base ++ "?" ++ TrackingEvent.query ⟨n, .click, some target, none⟩ := by
  have hv : Url.Form.encode "v" = "v" := Url.Form.encode_of_isAlphanum (by decide)
  have hkey : "&v=" = "&" ++ "v" ++ "=" := by decide
  calc clickUrl base (toString n) target
      = base ++ (trackingQuery (toString n) .click ++ "&" ++ "v" ++ "=" ++ Url.Form.encode target) := by
        simp only [clickUrl, hkey, String.append_assoc]
    _ = base ++ "?" ++ TrackingEvent.query ⟨n, .click, some target, none⟩ := by
        rw [trackingQuery_append (encode_toString n) hv, String.append_assoc]
        rfl

/-- The URL of the web version has the query of a visit. -/
theorem webVersionUrl_toString (base token : String) (n : Nat) : webVersionUrl base (toString n) token =
    base ++ "?" ++ TrackingEvent.query ⟨n, .webVersion, none, some token⟩ := by
  have hauth : Url.Form.encode "auth" = "auth" := Url.Form.encode_of_isAlphanum (by decide)
  have hkey : "&auth=" = "&" ++ "auth" ++ "=" := by decide
  calc webVersionUrl base (toString n) token
      = base ++ (trackingQuery (toString n) .webVersion ++ "&" ++ "auth" ++ "=" ++ Url.Form.encode token) := by
        simp only [webVersionUrl, hkey, String.append_assoc]
    _ = base ++ "?" ++ TrackingEvent.query ⟨n, .webVersion, none, some token⟩ := by
        rw [trackingQuery_append (encode_toString n) hauth, String.append_assoc]
        rfl

/-- **The URL in front of a link** reports the click with the target, whatever characters the target has. -/
theorem reports_clickUrl (hbase : '?' ∉ base.toList) (hpos : 0 < n) (hlt : n < 2 ^ 64) :
    Reports (clickUrl base (toString n) target) ⟨n, .click, some target, none⟩ :=
  ⟨base, _, clickUrl_toString base target n, hbase, TrackingEvent.ofQuery_query hpos hlt⟩

/-- The text behind the first question mark of a URL. -/
def queryOf? (url : String) : Option String :=
  (Chars.splitAtChar? '?' url.toList).map fun (_, query) => String.ofList query

/-- The URL of a site has no question mark, so the first one is that of the query. -/
theorem queryOf?_append (hbase : '?' ∉ base.toList) (query : String) :
    queryOf? (base ++ "?" ++ query) = some query := by
  have hchars : (base ++ "?" ++ query).toList = base.toList ++ '?' :: query.toList := by simp
  rw [queryOf?, hchars, Chars.splitAtChar?_append_cons _ hbase, Option.map_some]
  exact congrArg some String.ofList_toList

/-- **Tracking URLs are read as they were written.** On a site whose URL has no question mark, let a tracking
URL be written for the mail with the number `n`. The text behind its first question mark, with or without this
question mark, is read as

* a click of mail `n` on the target, for the URL in front of a link;
* a visit to the web version of mail `n` with the token, for the URL of the web version.

Target and token may be any text, and nothing else is read. -/
theorem ofQuery_trackingUrls (hbase : '?' ∉ base.toList) (hpos : 0 < n) (hlt : n < 2 ^ 64)
    (text : String) :
    (∃ query, queryOf? (clickUrl base (toString n) text) = some query ∧
      TrackingEvent.ofQuery query = .ok ⟨n, .click, some text, none⟩ ∧
      TrackingEvent.ofQuery ("?" ++ query) = .ok ⟨n, .click, some text, none⟩) ∧
    ∃ query, queryOf? (webVersionUrl base (toString n) text) = some query ∧
      TrackingEvent.ofQuery query = .ok ⟨n, .webVersion, none, some text⟩ ∧
      TrackingEvent.ofQuery ("?" ++ query) = .ok ⟨n, .webVersion, none, some text⟩ := by
  -- Either URL is that of the site with the query of an event, and only the event differs.
  have hread (e : TrackingEvent) (hid : e.mailId = n) : ∃ query,
      queryOf? (base ++ "?" ++ e.query) = some query ∧
        TrackingEvent.ofQuery query = .ok e ∧ TrackingEvent.ofQuery ("?" ++ query) = .ok e := by
    subst hid
    exact ⟨e.query, queryOf?_append hbase e.query, TrackingEvent.ofQuery_query hpos hlt,
      TrackingEvent.ofQuery_questionMark hpos hlt⟩
  rw [clickUrl_toString, webVersionUrl_toString]
  exact ⟨hread _ rfl, hread _ rfl⟩

/-- The greatest number of a mail and a text made of separators, signs and letters outside ASCII. -/
theorem ofQuery_trackingUrls_separators :
    ∃ query, queryOf? (clickUrl "https://mail.test" (toString 18446744073709551615) "?a=50%+½&v=%2B") =
        some query ∧
      TrackingEvent.ofQuery query =
        .ok ⟨18446744073709551615, .click, some "?a=50%+½&v=%2B", none⟩ ∧
      TrackingEvent.ofQuery ("?" ++ query) =
        .ok ⟨18446744073709551615, .click, some "?a=50%+½&v=%2B", none⟩ :=
  (ofQuery_trackingUrls (by decide) (by decide) (by decide) "?a=50%+½&v=%2B").1

end HtmlMail.Mail
