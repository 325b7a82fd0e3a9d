import PageRecords.Extract.Record
import PageRecords.Url.Parser

/-!
# Page tokens

A record as it is handed on: the page's own address stands first.
-/

namespace PageRecords.Record

def baseUrl : String := "BASE_URL"

def fullUrl : String := "FULL_URL"

/-- The page's origin and address, then the entries. An entry of either name takes
the token's place. -/
def withPageUrls (r : Record) (page : Url) : Record :=
  ((Record.empty.insert baseUrl [.text page.origin]).insert fullUrl [.text page.text]).insertAll
    r.entries

end PageRecords.Record
