/-
The word lists that tell word classes apart.

The closed classes (determiners, conjunctions, prepositions, pronouns, modals, adverbs)
are listed in full. Of the open classes there is a list of verbs in their base form,
their irregular forms, and some adjectives. Words that are mostly nouns in descriptions
of systems (order, book, account) are left out of the verbs on purpose.
-/

set_option autoImplicit false

namespace Draftsman.Prose.Lexicon

/-! ## Closed classes -/

/-- Words that open a noun phrase. -/
def determiners : List String := [
  "a", "an", "the", "this", "that", "these", "those", "each", "every", "some", "any", "all",
  "no", "its", "their", "his", "her", "our", "your", "my", "another", "other", "one", "many",
  "multiple", "several", "single", "various", "few", "both", "zero"]

/-- Words that join items of a list. -/
def conjunctions : List String := ["and", "or", "but", "nor", "&"]

/-- Words that relate a noun phrase to what stands before it. -/
def prepositions : List String := [
  "of", "in", "on", "at", "to", "for", "with", "by", "from", "into", "onto", "about",
  "through", "via", "within", "without", "under", "over", "between", "among", "per", "as",
  "like", "after", "before", "during", "upon"]

/-- Words that stand for a noun. -/
def pronouns : List String := [
  "it", "they", "them", "he", "she", "him", "we", "us", "you", "i", "who", "which", "whom",
  "whose", "what", "itself", "themselves", "there", "where", "when"]

/-- Verbs that grant or demand an action. -/
def modals : List String := [
  "can", "could", "should", "must", "may", "might", "will", "would", "shall", "cannot"]

/-- Words that qualify a verb and are passed over between a subject and its verb. -/
def adverbs : List String := [
  "not", "also", "only", "then", "always", "never", "often", "usually", "directly", "very",
  "just", "still", "already", "optionally", "automatically", "either", "too", "later",
  "again"]

/-! ## Open classes -/

/-- Words that qualify a noun. -/
def adjectives : List String := [
  "unique", "new", "old", "active", "inactive", "valid", "current", "primary", "secondary",
  "main", "total", "full", "first", "last", "personal", "public", "private", "available",
  "different", "specific", "basic", "premium", "registered", "special"]

/-- Endings that make a longer unknown word an adjective. -/
def adjectiveEndings : List String := ["ous", "ful", "ible", "able", "less"]

/-- Verbs in their base form. -/
def verbs : List String := [
  "be", "have", "do", "contain", "include", "comprise", "consist", "compose", "hold", "own",
  "inherit", "extend", "derive", "implement", "specialize", "subclass", "use", "place",
  "make", "create", "manage", "borrow", "return", "lend", "view", "edit", "update", "delete",
  "remove", "add", "login", "logout", "log", "sign", "register", "pay", "buy", "sell", "send",
  "receive", "belong", "write", "read", "teach", "enroll", "attend", "assign", "approve",
  "reject", "submit", "cancel", "reserve", "search", "browse", "track", "ship", "deliver",
  "store", "generate", "handle", "provide", "check", "verify", "validate", "authenticate",
  "purchase", "rent", "employ", "supervise", "treat", "prescribe", "host", "join", "follow",
  "post", "publish", "upload", "download", "share", "rate", "notify", "calculate", "display",
  "select", "choose", "open", "close", "withdraw", "deposit", "transfer", "apply", "support",
  "refer", "connect", "drive", "fly", "visit", "serve", "prepare", "cook", "maintain",
  "monitor", "control", "configure", "install", "run", "execute", "invoke", "call", "get",
  "set", "save", "load", "go", "take", "give", "keep", "leave", "answer", "ask", "complete",
  "start", "stop", "define", "represent", "describe", "access", "modify", "print", "work",
  "live", "study"]

/-- Verbs that help another verb. -/
def auxiliaries : List String := ["be", "have", "do"]

/-- Irregular verb forms, each with its base form. -/
def irregularVerbs : List (String × String) := [
  ("is", "be"), ("are", "be"), ("was", "be"), ("were", "be"), ("am", "be"), ("been", "be"),
  ("being", "be"), ("has", "have"), ("had", "have"), ("having", "have"), ("does", "do"),
  ("did", "do"), ("done", "do"), ("goes", "go"), ("went", "go"), ("made", "make"),
  ("took", "take"), ("taken", "take"), ("gave", "give"), ("given", "give"), ("sent", "send"),
  ("paid", "pay"), ("bought", "buy"), ("sold", "sell"), ("held", "hold"), ("wrote", "write"),
  ("written", "write"), ("got", "get"), ("kept", "keep"), ("left", "leave"),
  ("lent", "lend"), ("taught", "teach"), ("chose", "choose"), ("chosen", "choose"),
  ("ran", "run"), ("drove", "drive"), ("flew", "fly")]

/-- Nouns that are plural without a regular ending. -/
def irregularPlurals : List String := [
  "people", "children", "men", "women", "data", "media", "criteria", "feet", "mice"]

end Draftsman.Prose.Lexicon
