import OpenBroker.Text.Normal

/-!
# Names of hosts as they are written

People write names of hosts in capital letters, in wide or ornamental letters, and with
ligatures.  The mapping makes of each such character the plain ones that it stands for,
leaves out those that are not seen, and puts the rest into normal form.  A full stop of
any script becomes a point.
-/
namespace OpenBroker
namespace Domain

/-- **Run of mapped characters**: `count` of them from `first` on, `step` apart, mapped to
single ones from `target` on, `stride` apart. -/
structure MappedRun where
  first : Nat
  count : Nat
  step : Nat
  target : Nat
  stride : Nat
  deriving DecidableEq, Repr

/-- What a character of the run is mapped to. -/
def MappedRun.target? (r : MappedRun) (n : Nat) : Option Nat :=
  let i := (n - r.first) / r.step
  if r.first ≤ n && n == r.first + i * r.step && i < r.count then some (r.target + i * r.stride)
  else none

/-- The runs in a table. -/
def mappedRunsFrom (last : Nat) : List Nat → List MappedRun
  | gap :: more :: steps :: distance :: rest =>
    let first := last + gap
    ⟨first, more + 1, steps / 3 + 1, Packed.displaced first distance, steps % 3⟩
      :: mappedRunsFrom first rest
  | _ => []

/-- The characters that are mapped to a single one. -/
def mappedRuns : List MappedRun := mappedRunsFrom 0 (Packed.numbers
  "2XvX2W3fWW4neXX7,ZWW1GkaWW8lXWW4rcsX2WucX2W1etbY1qXbYbYbYeZbYfsbY1kWW7nXYbYcWWGtYWWDaXXbYaWWCy
    XWWYYXXCwYWWYZWW4.XXYCqYWWYYWWCwXWWC.YWWDcXWWDYXWWYaWWDcXWWDgYWWDiXYbYcWWDqXWWYYWWDqZWWYYWWDqX
    WWYYXXDoYXbYaWWDsXWWYaWWYndbYnebYsWWYYWW6XXWW3lXpbY1eWW8ZYebYuWWL2sXWWYYWWAbXWWL2mZWWYYWWCbXWW
    4gXWW4kXabY3gXb14lXWW4rYWW14XXXY3rYWW3fXXY13,1fWW7vXWW17fXWW16zXWW16rXWW4z2yXX3,ZWW2,YWW7e1hXb
    YaWWBrYWWYfWW7edXa2iXWW1C,YXX2gZXa4WZWW3.YmX2WoeX2W1iWWmXWW1xXWW1nXWWvXWWhXWWnXWWzXWW1hYhbYuWW
    3hXXY2,ZWW3tXWW3,YWWYYWW3hXWWYZYX8ZZlX5Wm,X2W2mmbY1gwbY1sWW.XcbYl1lbY3X1bX3W2ExWWXCq1bXE6W1dWW
    E6WcWWE6W1lWW1,NybXl24eXYC4xYWWC4dXXXC4ZYWWC4bXWWC3tXWWC2dXWW24Sce1gX5R,1jYX5R,3lXaECrXWWE4jZX
    XECtYWWDLfXdXECtfXaECvXWWDHpYXYECvYXYECtYWWEEZXXXDFdYWW4dXXYEEfYWWEEdXXYDFXYWWDE,XWWEEhYXYEEdY
    WWE0hXWWEEbXWWDFzXXX3xYWWEEhXXXEEbYWW3tXWWDErXWWEEfXWW3jXYXCQrZXXCPpYWWEFnXWWEFXXXXEEzYXXCRdYW
    WCQjXXXCQblWWCJr1ZWWDKnXWWEJnXWWDKlXWWEAxXWWDKbXWWEJpXXYDKZYWWDJxXYXDJtZWW2tXWWDGrXWWDJtXWW2fX
    WWDGtXXaDJrXWWDJvYYXDJtZWWDJpXXXDJXYWWE0pXXXDIvYWW9tXXXDIxYWWEKXXYXDItZWWD0j2X2gbY4xWW3pZWWERz
    Y1lbY3edXlmbXlmdXlmdXlmbXlnZblldXlfZaDSfeYaDQv1,XXlYWW4pXWWE0zZWWE0fgXb5hXXaE1tgWWE4bbXXlYWW6d
    XWWE2teWWE3bbXXlYWW6,XWWE1xXWWjiWW7,XXbE2vXWW7x3sWWG3,XWWG0lZbXG3,hWWG1XXfXG4,mWWG2zXWWG2tXWWG
    2bXWWG1rXWWF3rXWWG2vXZXG2raWWG2pXXXG2l3dWWG9zbWWFAtZXXGAbYYWGAdZWWFUlXXWGAjYXWGAhZWWGAjaYXGAnZ
    XWGApeWWGApYWWELvYWWGAxYWWGBzXWWG4hXXXGCpZXWGCpYWWGCrXWW1uXXYGChYZXDMfaWWGC,ZWWENtXXWEOpYWWENz
    cXWGEXYWWGEZXXXGDzuWWGFjaWWGExbWWGFXZWWGF,XXXGGpYWWGGZXWWGGjaWWGFxbWWGGXZWWGG,XXXGHpYWWGHZaWWY
    MzeXI2z2svXI5fwvXI6zwWWIBp1Os1lX3W3WWWYYWWKVjXWW7EhXWWKUjZYbYcWWL1tXWWKVvXXYL1zZWWYZWWYdWWM1ZX
    WWM0jXXXL3zY1nbY3hXbYdWWY3zWWx9mWWUIy2qWW1OAujWWFGWXWWFIkXWWFJeXWWFJuXWWFLgXWWFOWXWWFOiXWWFPoX
    WWFRaXWWH3iXWWH5sXWWH6WXWWH7iXWWH8oXWWH9wXWWHDYXWWHEgXWWHE.XWWHOoXWWHUiXWWI0YXWWI0gXWWI2aXWWI2
    qXWWI4eXWWI5WXWWI6mXWWI9sXWWIAuXWWICiXWWJRoXWWK0WXWWKSsXWWKUYXWWKUmXWWKVaXWWL0cXWWL4yXWWM2qXWW
    M5oXWWMDWXWWMEiXWWMFmXWWMGwXWWMKaXWWMKeXWWNAwXWWNBiXWWNCYXWWNCwXWWNKWXWWNKkXWWNKsXWWNR.XWWNSmX
    WWNTeXWWNTsXWWO1kXWWO2kXWWO3mXWWO8kXWWPCsXWWPFmXWWPGuXWWQU.XWWQVcXWWR4gXWWR5eXWWR6WXWWR7eXWWR9
    qXWWR9yXWWRQmXWWRR.XWWRTyXWWTTgXWWU1iXWWU2uXWWU6gXWWU7uXWWU8eXWWU8qXWWUBwXWWUCYXWWUEWXWW10HiXW
    W11DeXWW11D.XWW11EcXWW11EiXWW11EwXXY11FyYWW11K.XWW122iXWW122qXWW12NuXWW12OgXWW12RiXWW12RuXWW12
    SeXWW12SsXWW132gXWW132sXWW13GyXWW13HeXWW13KeXWW13LeXWW13OaXWW146yXWW147eXWW148eXWW14SqXWW154kX
    WW154uXWW15GYXWW15LkXWW15OeXWW16FwXWW16OYXWW17RyXWW17TmXWW181WXWW184aXWW188gXWW188.XWW189eXWW1
    8BeXWW18F.XWW18GmXWW196YXWW196kXWW196.XWW197kXWW198iXWW199eXWW199kXWW19EgXWW19EmXWW19EwXWW1BCY
    XWW1BDyXWW1CBaXWW1CBwXWW1CDcXWW1CUwXWW1CVoXWW1D3.XWW1D6uXWW1EAaXWW1EBWXWW1EByXWW1EEWXWW1EGeXWW
    1ESqXWW1ETgXWW1F1kXWW1FGyXWW1FIuXWW1FVuXWW1G1WXWW1G1eXWW1GE.XWW1GQiXWW1H2aXWW1H2kXWW1H2sXWW1IT
    WXWW1ITmXWW1J7cXWW1JGuXWW1JGyXWW1JJuXWW1JQeXWW1JRWXWW1JRcXWW1JRoXWW1K1qXWW1K3sXWW1K4WXWW1K4wXW
    W1KFcXWW1KIgXWW1KImXWW1KTyXWW1KUWXWW1KVaXWW1LEwXWW1LHuXWW1LIaXWW1LMkXWW1LNWXWW1LNaXWW1LNsXWW1L
    PmXWW1MIaXWW1NBYXWW1NBqXWW1ND.XWW1NFeXWW1NFsXWW1NGeXWW1NGkXWW1NIyXWW1NJYXWW1NKYXWW1NKgXWW1NLYX
    WW1NMsXWW1NNoXWW1NOWXWW1NRqXWW1NSmXWW1NSs1jWWNTd1sWWHGoXXXHGsAvWWE6yXWWEFoXYaE7gXWWIKiYWWE9iYW
    W11PoXWWEB.XWWE7yXWWE6gXWWJOuXWWIPaXWWEHs5bWWHGsXWWM3kXWWPKYXWW14Km1dWW1SPaXWW1V2oXWW207eXWW22
    GsXWW23LiXWW24QYXWW273mXWW29C.XWW2AHqXWW2CRYXWW2DVuXWW2F4kXWW2G9aXWW2HDwZWW2A3aYWWDOWXWWE0sXWW
    DOkXWWI5mXWWE1WXWWFEmXWWDNwXWWFEeXWWDTgXWWGBmXWWQ7yXWWUUWXWWSQmXWWQ9sXWW1FKcXWWI9WXWWPLgXWWQPo
    XWWQ7kXWW13AsXWWGNoXWWVUeXWW1D0sXWW13CiXWWG1uXWW13J.XWW119wXWWJDmXWW1ESwXWWF8wXWWGDaXWWT4oXWW1
    IMgXWWE7WXWWFFkXWWSCWXXaDMiXWWDOmYWWLJ.XWWGKsXWWG9aXWWKEwXWWKBsXWW123kXWWE5eXWW1D1oXWWGAgXWWJ6
    u1WaY12xbhY12piZY11vaaX11pbWW11lXWW11hXWW11dXWW11ZXaX10,bYY10zZaX10vbZX10tSQbsbY2WjbYyXY2H5Z4c
    cbYm.bY1.WWXfXbYaWW250dXabYjWWYYWW2IIlZXbYcfbYqWW2IKdXWW2IKzXWW2IKrXWW2IKXXWW2IKdYWW2IHZXWW2II
    pXWW2IHfXWW1QWXdbYmWW2,XWW2IKbXWW253lXXbYaWW2IMjbabYiWW2J4XrWW2JNxXWW2JOzXWW2JOvXWW2JObXWWYZWW
    2JDXXWW2JAhRZWW23fXWW2hXWW2KFbXWWvgWW2KDtd2lX2BS,JCmWW1MBlXWW290vXWW1L3lXWW1M3rXWW253bXWW2LDbX
    WW2IIXXXW1CMrYWW2FRlXWW1JJnXWW2HOdXWW2FSdXWW2BHjXWW21AfXWW1SOpXWW1PDXXWW1OLjXWW1O1pXWW1K8dXWW2
    7HZXWW25VpXWW243vXWW22JnXWW1QDrXWW1JQzXWW1FInXWW2L9nXWW2IQjXWW271nXWW23GbXWW1PFZXWW1DGZXWW2DTX
    XWW24JjXWW1PLhXWW1NR,XWW2B5tXWW1RKxXWW1OGlXWW2D5xXWW291ZXWW25R,XWW232zXWW1K5xXWW2KQjXWW2JNjXWW
    2J5XXWW2A6tXWW275xXWW23IZXWW214tXWW1SJbXWW1PIzXWW1PDpXWW1LKlXWW1H0hXWW1ESpXWW1DJ,XWW20AzXWW1VR
    vXWW1TPvXWW1QNfXWW1J3rXWW1DCXXWW1N6rXWW2G6bXWW2D3zXWW1UEdXWW1SCjXWW23EdXWW207vXWW1M8hXWW1H5ZXW
    W2G7ZXWW2EEnXWW27JnXWW25NbXWW253zXWW1U1,XWW1THnXWW1HGhXWW2J7,XWW1SClXWW2JNlXWW2JOnXWW1VJpXWW1T
    PnXWW1QMjXWW1HEdXWW1MTpXWW2B8tXWW27LpXWW1N5zXWW2LIfXWW2ENlXWW2CKxXWW22TpXWW21VZXWW2J4tXWW206nX
    WW2KQhXWW2CRvXWW2LLpXWW269tXWW29VXXWW1U4lXWW2IQlXWW2GGxXWW216tXWW1QIfXWW1NCfXWW26RhXWW1KSXXWW2
    6EpXWW2B7fXWW1R8zXWW2ATfXWW221XXWW2LCnXWW2K0zXWW2JQ,XWW28FnXWW1U9dXWW1RGvXWW1NArXWW1JQzXWW2J8p
    XWW2IJxXWW2G0xXWW2D9hXWW29RxXWW24OhXWW205rXWW1HTnXWW1FHvXWW1DFXXWW1DBrXWW2JEzXWW29CfXWW271fXWW
    1L2rXWW2DHpXWW2BVzXWW2BO,XWW2AFjXWW256zXWW244pXWW22GrXWW1VSrXWW1TQZXWW1SIlXWW1L7ZXWW1QArXWW1KN
    jXWW1J5XXWW2JOfXWW2JFpXWW2IEXXWW24DjXWW1ODxXWW1NFjXWW2DDnXWW2CQxXWW2B2nXWW26VjXWW1UMlXWW233ZXW
    W2LCdXWW2HA,XWW2ESbXWW2DVXXWW2CO,XWW22VrXWW22KfXWW1T1fXWW1SMpXWW1JNvXWW1HBtXWW1H6rXWW1GPtXWW2L
    2pXWW200lXWW1K0bXWW1HF,XWW2CDlXWW2LJdXWW2KEXXWW2ESxXWW2ENxXWW2A2fXWW27RvXWW23VZXWW21NzXWW1QChX
    WW1KKjXWW1D3jXWW29JvXWW1HPlXWW2JJxXWW294vXWW28ThXWW268nXWW25IzXWW22SbXWW227dXWW20MbXWW1UBzXWW1
    GNZXWW2K6dXWW2BQdXWW1HLrXWW2KQnXWW2EBtXWW25UtXWW1LAvXWW2D4vXWW2C9fXWW28SbXWW235dXWW1HLhXWW2JRd
    XWW2ISzXWW2ENpXWW29SvXWW299bXWW28JpXWW26FxXWW22TxXWW220bXWW1T6vXWW1OHlXWW1OGjXWW1K1vXWW1HGlXWW
    2JAtXWW25JZXWW2IS,XWW241xXWW22LjXWW1PVhXWW1HKxXWW1EPrXWW1DLdXWW295vXWW262pXWW1S0xXWW1VItXWW1VD
    lXWW1UMjXWW23JpXWW24MZXWW1NAdXWW2LJvXWW1RClXWW2JSfXWW2JVnXWW2DLrXWW2BIzXWW1UIvXWW2F7zXWW26EjXW
    W29LZXWW1LCtXWW1ORtXWW1HRtXWW1O7zXWW2DJlXWW2KCtXWW2I4vZWW2GRhYWW29PxZWW2K3jXWW23EtXWW21KvXWW20
    DtXWW20BrXWW20BfXWW208tXWW1HChXWW1ULzXWW1T6XYWW1Q0xYWW1NIpZWW1KUvXWW1KInaWW1GJrXWW1GIzXWW1GGdX
    WW1E7nXWW1KK,XWW1HNlXWW2L8ZXWW2KKpXWW2KEfXWW2JMpXWW2JK,XWW2JEdXWW2I9nXWW2I3XXWW2HS,XWW2GVnXWW2
    GPZXWW2ETjXWW2ESxXWW2CQnXWW2CDhXWW2CBXXWW2C4xXWW2AFZXWW2A5,XWW29RZXWW28RzXWW26CxXWW262tXWW25If
    XWW24DpXWW241xXWW232lXWW20RpXWW20GxXWW20GdXWW20GhXWW20FzXWW20FpXWW20FdXXX20CfYWW201dXWW1VTdXWW
    1V9hXWW1U6bXWW1U4zXWW1U1lXWW1TElXWW1T5hXWW1S6zXXW1RUdYWW1R0lXWW1OK,XWW1OCrXWW1NMXXWW1NIpXWW1MP
    XXWW1MLvXWW1LA,XWW1L2zXWW1HOfXWW1H6pXWW1H2zXWW2CVhXWW548aXWW1S5fZWW2M4pXWW2KBtXWW2KGpXWW2LFbXW
    W2KIzXWW2KFfXWW2JQzXWW2JNvXWW2IDrXWW2IIdXWW2IEXXWW2I9nXWW2H2ZXWW2GSpXWW2GJpXWW2GIrXWW2G1xXWW2F
    LnXWW2DQ,XWW2DQpXWW2DHrXWW2DDlXWW2CQxXWW2CJnXWW2CN,XWW2CFrXWW2CIpXWW2C9nXWW2C5lXWW2BCnXWW2B7ZX
    WW2B3vXWW2AJpXWW2A1vXWW29NrXWW29NlXWW29JxXWW27HtXWW27DtXWW26LhXWW25RvXWW25SxXWW25NlXWW257vXWW2
    4IxXWW21FhXWW246nXWW23U,XWW23NhXWW232,XWW22PtXWW22MlXXY228jYWW21TtXWW21StXWW21RdXWW21LzXWW21Mp
    XWW20TzXWW1VVrXWW1VEvXWW1V3bXWW1ULdXWW1UBtXWW1TNbXWW1TAvXWW1RMXXWW1RCfXWW1PJtXWW1ONfXWW1OJXXWW
    1OIZXWW1NVpXWW1NSZXWW1NU,XWW1NRrXWW1NRzXWW1NTXXWW1NOhXWW1NJhXWW1MRnXWW1LOpXWW1L5XXWW1KIrXWW1K4
    zXWW1I4pXWW1HUdXWW1HNZXWW1HExXWW1HCrXWW1HB,XWW1H9XXWW1FRrXWW1DJZXWW4MNsXWW4MNeXWW4SGeXWW2VJfXW
    W2TBrXWW2T9rXWW5BNeXWW5GVqXWW61VuXWW1DPfXWW1DKr2dWW3QJxXWW3QLXXXX3QKzYYX3QKnZXY3QJz1fXW3QDzYZW
    3QDjaZW3QDlaZW3QDpaZW3QEdaZW3QEbaZW3QEvaZW3QChaZW3QClaZW3QExaZW3QFbaZW3QFdaZW3QFjaXW3QFfYXW3QF
    lYXW3QFlYXW3QF,YXW3QFZYXW3QFrYZW3QEfaZW3QEbaZW3QEbaZW3QEnaXW3QEdYZW3QEfaXW3QEdYZW3QEfaZW3QEtaX
    W3QDtYXW3QDv1ZZW3QIhaXW3QG,YXW3QHbYXW3QHbZXW3QHbYXW3QHrYXW3QHnYZW3QHdaXW3QPzqZW3QI,JdWW3V3hzba
    3S5zXaa3S5zgYa3S6fXYa3S6hbYa3S6nXYa3S6pbXW3S6vYZW3S6xaZW3S7XaZW3S7daZW3S7jaaa3S7pXaa3S7rfXW3S7
    ,YZW3S8XaZW3S8daZW3S8jaZW3S8paZW3S8vaZW3S8,aZW3S9baZW3S8,aZW3S9baZW3S9haZW3S9naZW3S9taZW3S9zaZ
    W3SAZaYa3SAfXYa3SAhbXW3SAnwXX3VD,ZfX3VD,nvX3VB,1WvX3VD,1WWW3VJbaWW376pXWW377dXaY37ChbYY378nZWW
    37AtXWW377dXaY37CzbhY37CriZY37BxaaX37BrbWW37BnXWW37BjXWW37BfXWW37BbXaX37BXbYY37A,ZaX37AxbWW37A
    vXWW37ApXXX37Gf13Y1dX2m5m1ZX2m6Wob2kXab2kicb2kmYb2keWW2kFiXX42BXYWW439vXWW42ErXWW42JZYXb42EdXW
    W1E2ZYWW42EhXXX42JfYWW3KVtXWW42JhXWW42JXXWW42EjXWW42IvXWW42I,XWW42JbXXa42FnXWW436xYWW42I,XWW42
    HdXXX42EzYWW42IzXWW3BMmXWW1G0zXWW42I,XXa3BMiXWW42HZYWW43ApXXX42IvYWW43JdXWW42ItXWW3BMYXXX42IrY
    WW42IpXWW42GbXXa42GhXWW1E4hYWW42IjXWW3DJzYWW42IbXXX42HZYWW42HvXYX42VhZWW3BLYXWW3BMe16c1oX4W31W
    ,X2WLDW,X2WNKsvX767fwfX76B,1OmvX79PzwvX79RnwvX79Tbwib79UvXYb79Uveeb79UvnvX7A0jwvX7A2XwXb7A3rZW
    W7A3rZWW7A3rZXX7A3raZX7A3rbdX7A3reZX7A5fbgb7A5fZYb7A5feab7A5fgvX7A6zwvX7A8nwXX7AAbZZX7AAbcdX7A
    AbfcX7AAbevX7ABvwXX7ADjZZX7ADjbaX7ADjcWW7ADjacX7ADjevX7AFXwvX7AGrwvX7AIfwvX7AJzwvX7ALnwvX7ANbw
    vX7AOvwvX7AQjwvX7ASXwvX7ATrwvX7AVfwvX7B0zwvX7B2nwWW7ANbXWW7A6xZmX79FjnWW79GXXcX79FjemX79HXnXW7
    9G,YbX79HXdWW79IjXXY79IfYWW79HnXWW79HzXWW79IXXmX79JXnWW79JrXcX79JXemX79KrnXW79KpYbX79KrdWW79MX
    XXY79LzYWW79LbXWW79LnXWW79LrXmX79MrnWW79NfXcX79MremX79OfnXW79OdYbX79OfdWW79PrXXY79PnYWW79OvXWW
    79PbXWW79PfXmX79QfnWW79QzXcX79QfemX79RznXW79RxYbX79RzdWW79TfXXY79TbYWW79SjXWW79SvXWW79SzXmX79T
    znWW79UnXcX79TzemX79VnnXW79VlYbX79VndWW7A0zXXY7A0vYWW7A0XXWW7A0jXWW7A0nXXW79UvafX7BPxgfX7BQlgf
    X7BRZgfX7BRtgfX7BSh21weX7DV,fYX7DVzZgX7DVxhXY7DVtYWW7DVrXWW4SSXXWW7DNZXXY7DVhYWW7DMfXWW7DP,XWW
    7DOXXeX7E2XfXX7E1,YXX7E1xYXY7E1vYaX7E1tbXX7E1rYWW7DThXWW7E1ZXWW7E1dXWW7E0rXWW7DR,XWW4T1rXWW7DR
    t24p1XX2a18WXX7JTnYWW7JThXWW7JTdYWW7JRvXWW7JTdXWW7JTpXWW7JTXXWW7JRzXZX7JSjaWW7JTrXWW7JThXXa7JS
    zXWW7JTtYWW7JUZXWW7JT,XXX7JUrYXY7JUnYYY7JUbZWW7JQxXWW7JMbXWW7JNvXWW7JQ,YWW7JVnXWW7JVhYWW7JTvZW
    W7JVpYWW7JTzXZX7JUjaWW7JVrXWW7JVhXXa7JUzXWW7JVtZWW7JV,XXX7K0rYWW7K0nYWW7K0bYWW7K0XdWW7K1hbWW7K
    1pYWW7JVzYXb7K0jZWW7K1rXWW7K1hYWW7K1tXWW7K0,YWW7K1,ZWW7K2nYWW7K2bYWW7K2XYWW7JQbYWW7JU,YWW7K3nX
    WW7K3hYWW7K1vZWW7K3pXWW7K3XXWW7K1zXXb7K2jZWW7K2jXWW7K3rXWW7K3hXXa7K2zXWW7K3tZWW7K3,XXX7K4rYWW7
    K4nYYY7K4bZWW7K0xYWW7JTvYXX7K5nYWW7K5hXWW7K5dXXX7K3vYWW7K5dXWW7K5pXWW7K5XXWW7K3zYYX7K4jZWW7K5r
    XWW7K5hXXa7K4zXWW7K5tYWW7K6ZXWW7K5,XXX7K6rYXY7K6nYYY7K6beWW7K7nXWW7K7hXWW7K7dYWW7K5vXWW7K7dXWW
    7K7pXWW7K7XXWW7K5zYYX7K6jZWW7K7rXWW7K7hXXa7K6zXWW7K7tYWW7K8ZXWW7K7,XXX7K8rYXY7K8nYYY7K8bJoWW7O
    ClXWW7OBpavX7OCz6oWW70KvkWW67SfXWW6BBpXWW6F4hXWW70KtXWW6HOlXWW6CFrXWW5K3bXWW6CExXWW6HNdXWW65Vn
    XWW60FnXWW668ZXWW6FSzXWW699XXWW6G9XXWW666zXWW6G0bXWW5QDzXWW5UGbXWW5INpXWW6CJdXWW6EUtXWW61HZXWW
    67PZXWW67DbXWW6I2nXWW6I2XXWW5GUXXWW6A4hXWW6HV,XWW6F3rXWW67IlXWW5IB,XWW67TxXWW5SBXXWW5RRnXWW6F2
    tXWW61RfXWW65IvXWW65IzXWW5UGfXWW6FSjXWW6E8dXWW5GExrWW69BnXWW6F6Z2C,fX7TR,1V0mWWAKSbXWWAKSnXWWA
    KSXXWW3REXXWWAKAdXWWAK5jXWWAK4rXWWAK0fXWWAJOxXWWAJM,XWWAJIbXWWAJJtXWWB1MxXWW3OTbXWWAJCXXWWAJBr
    XWWAJAtXWWAJ9pXWW3PFhXWWB1LpXWWAJAvXWWAJ8lXWW3PCrXWWAJ7,XWWAJ7dXWWAKKvXWWAJ6xXWWAJ6hXWW1J3vXWW
    AJ2lXWWAJ1rXWWB1J,XWWAIUfXWWAITrXWWAIQ,XWWAIQtXWWB1GzXXYAILxYWWAIKbXWWAIIxXXXAIIdYWWAIHdXWWAIE
    bXWWAIDtXWWAIDdXWWAIBtXXYAIBbYXWAIBbYWW3N0lXWWA3SfXWWAI6tXWWAI5lXWW3MDfXWWAI4xXWWAI4nXWWAI3fXW
    WAHPxXWWAI0fXWWAHVhXWWAHTjXWWAHPxXWWAHKrXWWAHJZXWWAHE,XWWAHEXXXWAHCXYWWAHAxXWWAH9vXWWAH9hXWWAH
    8lXXaAGJfXWWAH4hYWWAGVvXWWAGTrXWWAJ4nXWWAFMbXWWAG8dXWWAG5zXWWAG4jXWWAGCpXWWAG2dXWWAG2hXWWAFQtX
    WW3HNfXWWAFMlXWWAFMdXWWAFLhXWWAFKbXWWAFJtXWWAFFvXWW3GRlXWW3GNjXWWAF7hXWWAF4lXWWAF3vXWWAF8vXWWA
    EV,XWWB0NnXWWB0MtXWWAEMXXXWAEItYWW3FAdXWWAEApXWWAE9hXWWAE8lXWWAE7vXWW3ELnXWWAE7bXWWAE6vXWWACIX
    XWWAE5bXWWB0FfXWWAE1jXWWAE0pXWWADRnXWWADUvXXb3D9jXWWADJnYWWADG,XWWADHdXWWADGdXXXAD9,YWWB05dXWW
    AD8jXWWAD5vXWWAD4nXWWAD1xXWWB02hXWW3BGhXWWB00xXWWACTrXWWACTnXWWACTjXWWACSdXWW1AFvXWWACPZXXW3AL
    ,YWW9R9ZXXWACNZYWWAVSzXWW32TzXWW2BBxXWWACJjXWWACIzXWWAVRlXWWACGZXWWACC,XWWACCjXWWACAhXWWAC1zXW
    WAVMjXWWAVOhXWWAC0zXWW38S,XWWABTxXWWABLxXXYABLrYWWABLvXWWABI,XWWABHvXWWABFpXWWABGnXWWABFzXWWAB
    DXXWWABBxXWWABBrXWWABAZXWWAB9lXWWAB5jXWWAB0dXWWAAUZXWWAAMjXWW36QtXWWAANtXWWAARxXWWAALbXWWAAJnX
    WWAADnXWW36CvXWWAA9vXWWAAFrXWWAAHlXWWAV9dXWWAA5pXWWAA4hXWWAA2lXWWAA4zXWWAV5rXWWA9NnXWWA9LvXWW3
    4B,XWWA9ElXWWA8TdXWWA98dXWWAURfXWWA93xXWWAUSlXWWAUUvXWWAJJ,XWWAJJxXWWA8TdXWWA93nXWW9S2nXWWAQFx
    XWWA8SXXWWA8RxXWWA8RnXWWA8NvXWWA8OnXWW32HpXWWAUPfXWWA8EfXWWA8LrXWWA88zXWWA85vXWW327hXWWA85hXWW
    A8ChXWWA7TZXWWAUKpXWWA7QhXWWA7KhXWWA7F,XWWA74bXWW314nXWWA71ZXWWAUDhXWWA6SxXWW304nXWWA6PvXWWAUA
    dXWWA6OXXWWA6LfXXXA6JrYWW2V6pXWW3DUvXWW2UVzXWWA6AtXWW2U3zXWWA63vXWWA62,XWWA69jXWWA5UnXWWA5SZXW
    WA5OpXWWA5SXXWWA5PpXWWA5OtXWWA5N,XWW2TUlXWWA5TbXWWA5DnXWWA59rXWWATTjXWWA53,XWWA54fXWW2T3tXWWA5
    HfXWWA4QXXWW2SRZXWW2SObXWWA4KtXWWA4DpXWWA4FhXWWA4FpXWWATN,XWWA4CvXWWA49rXWWA4AZXWWA46vXWW3PVhX
    WWA3TjXWW2RBpXWWA3OZXWW2QNdXWWA3FlXWWA3EtXWWA3DZXWW2PHrXWWA3AdXWWA38,XWW2OVXXWW2OHbXWWA2QxXWWA
    2PxXWWAT7xXWWA2OhXXWAT7dYWWA2EjXWWA2DbXWWA2BzXWWA2AtXWWA26lXWWAT1lXWWA20,XWW2MFzXWWA1VlXWW2MAf
    XWWA1SlXWW3BPpXWWA1IpXWW2KPpXWW2KOdXWW2KFnXWWASKZXWWASJjXWWA14tXWW2K4xXWW2K4,XWW2K2pXWW2K1XXXX
    A12jYWWA12lXWWA0VxXWWASG,XWWA0RzXWWASGfXWWASBhXWW2II,XWWA0F,XWWA0CbXWWA08dXWWAS6xXWW2HItXWW9VV
    vXWW2HBpXWW2H8,XWW9VSjXWW9VMtXWWAS2nXWW9VHnXWW9VG,XWW9VGtXWW2FT,XXW2FBhYWW9V7XXWWARLxXWW2ERhXW
    W9UPtXWW9UPpXWWARJvXWW2EEfXWW9U9dXWWARCjXWW9U7,XWW9U8hXWW9U6pXWW2CUfXWW9U0nXWWAR6tXWW9TQjXWW9T
    MvXWW9TIrXWWAR3vXWW2BKpXWW2BItXWWAR1rXWW2B9tXWW9SVtXWW2B3nXWW9SUbXWW9SNzXWW9SNfXWW2AAXXWW2A5nX
    WW9SHvXWW29ThXWW9SGzXWW332XXWWAQQtXWW9SC,XWW9S7,XWWAQNnXWW9S4jXWWAFDXXWW28T,XWW28TbXWW32VhXWW3
    2UxXWW9ROpXWW9ROlXWW9KUzXWWAQIbXWW9RFxXWW9RGfXWW9RFdXWWAJDzXXY9REZYWW9RDlXWW9RA,XWW275rXWW9RBb
    XWW9R7tXWW9R3jXWW9QUxXWW9R7nXWW9QT,XWW9QRjXWW9QKlXWW9R4vXXY9QTjYWW9QSjXWW26MxXWW263pXWW26DXXWW
    AQ7tXXY9QBjYWW9Q9dXWW22UXXWW9Q4lXWW258XXWWAQ5XXWWAQ4xXWW24VzXWW24DzXWWAQ4jXWW9PMbXWW9PLlXXY9PK
    xYWW9PGxXWW9PI,XWW9PArXWW9PDlXWW9P4ZXWW9P9dXWW9P5ZXWW9P3lXWWAPUlXWW9OTzXWW9OR,XWWAPSnXWW9OMbXW
    W9OMXXWW21LxXWW9OEzXWW9OEnXWWAPPbXWW9OCzXWWB2GzXWW20HvXWW206hXWWAPGzXWWAPGjXWW9NIzXWW9NEbXWW9N
    4jXWW9MNvXWW1UIrXWW9MInXWW9MHdXWW9MBrXWW9M5,XWW1TAnXWW3OTfXWW9M0zXWW9M1zXWW9LUtXWW3OFzXWW9LGpX
    WW9LAjXWW1Q0xXWW1PVdXWW9KKxXWW9KFZXWW9KDbXWW1PBjXWW9KCrXWW9JQzXXX9JHXYWW9JMxXWW9IVZXWW9ITjXWW1
    MVbXWW9I6bXWWAO5pXWW9I3nXWW1M7pXWWAO0tXWW9HI,XWWAE4ZXWW9HDZXWW1KBXXWW1JTvXWWANOpXWWANObXWW9H1p
    XWW1IVXXWWANKpXWW1IMjXXW9GVbYWW9GTjXWW1I4rXWW9GH,XWWANC,XWW9GDrXWW9G5xXWW9G4dXWW9G0nXWWAN3pXWW
    1FDnXWW9FFlXWW9ESrXWW9EGzXWWAMJzXWWAMIXXWW9EAlXWW1CKZXWWAMHnXWW1CGvXWW1C0fXWW1BObXWW9DLpXWWAMB
    ,XWW9DHxXWW9DHpXWW9DHdXWW9DGrXWW9DGfXWW9DEXXWW1A1v")

/-- The texts in a table: a gap, a length, and so many numbers. -/
def mappedTextsFrom (last : Nat) (pending : Option (Nat × Nat × List Nat)) :
    List Nat → List (Nat × List Nat)
  | [] => []
  | n :: rest =>
    match pending with
    | none => mappedTextsFrom last (some (last + n, 0, [])) rest
    | some (whole, 0, _) => mappedTextsFrom last (some (whole, n, [])) rest
    | some (whole, 1, ns) => (whole, (n :: ns).reverse) :: mappedTextsFrom whole none rest
    | some (whole, missing + 2, ns) =>
      mappedTextsFrom last (some (whole, missing + 1, n :: ns)) rest

/-- The characters that are mapped to several. -/
def mappedTexts : List (Nat × List Nat) := mappedTextsFrom 0 none (Packed.numbers
  "9mY3fOdYY3f3gXY3f3giY3i5tXY3i5tfYLy3k3xY3aB.XY3aB.XY3aB.XY3i3gXY3i3gXY3i3gXY3k3gXY3k3gXY3k3g1b
    Y3a3wXY3a3wXY3a3wAnYOeOXIZY1Bb1CY7kY1Hd1JqXY1Ie1JqXY1Md1JqXY1Ig1JqNWY28r29yXY28s29yXY28t29yXY2
    8y29yXY29X29yXY29Y29yXY29h29yXY29l29y3zY2DX2DyXY2DY2DyYY2Dl2Dy2qY2Ho2HyZY2Hu2Hy1ZY2Gs2HyXY2Gt2
    HyXY2Gy2HyZY2Hh2Hy7.Y2PX2PyXY2PY2PyMsY3Ij3Ho4WY3Mj3Lo1fY3Lh3KvXY3Lh3LX3cY3QY3TtgY3Qi3TtbY3Qn3T
    tbY3Qs3TtbY3Qx3TtjY3QW3TrgY3Rn3RoYY3Rn3RqXY3To3SWXZ3To3Rn3SWXY3Tp3SWXZ3Tp3Rn3SWeY3Rn3SWoY3So3T
    tgY3Sy3TtbY3TX3TtbY3Tc3TtbY3Th3TtjY3Sm3Tr3NXY3XL.7cY7OWTvXY7OXTvXY7OYTvXY7OZTvXY7OaTvXY7ObTvXY
    7OcTvXY7OdTvXY7OWTvXY7OXTvXY7OYTvXY7OZTvXY7OaTvXY7ObTvXY7OcTvXY7OdTvXY7PWTvXY7PXTvXY7PYTvXY7PZ
    TvXY7PaTvXY7PbTvXY7PcTvXY7PdTvXY7PWTvXY7PXTvXY7PYTvXY7PZTvXY7PaTvXY7PbTvXY7PcTvXY7PdTvXY7RWTvX
    Y7RXTvXY7RYTvXY7RZTvXY7RaTvXY7RbTvXY7RcTvXY7RdTvXY7RWTvXY7RXTvXY7RYTvXY7RZTvXY7RaTvXY7RbTvXY7R
    cTvXY7RdTvZY7RmTvXYTnTvXYTiTvZY7TsTvbYTnTvcY7RqTvXYTtTvXYTkTvZY7UcTvbYTtTv1cY7RyTvXYUfTvXYUkTv
    ZY7VsTvbYUfTv5iY3o3p3kY3k3lgY3p3jXZ3q3b3iXY3q3jvZ3c3X3u1cY3f3fXZ3f3f3fXY3f3sYY3s3fXZ3s3f3fXa3s
    3f3f3fXY3f3uYY3u3fXZ3u3f3fcY3f3fXZ3f3f3fXY3f3sYY3s3fXZ3s3f3fXa3s3f3f3fXY3f3uYY3u3fXZ3u3f3fNkY1
    n1mXY1n1nXY1n1oXY1n1pXY1n1qXY1n1rXY1n1sXY1n1tXY1n1uXY1n1vXY1o1m31iYC4eC4g3WYC5pC6eAnZ3m3q3bXY1
    o1nXY1o1oXY1o1pXY1o1qXY1o1rXY1o1sXY1o1tXY1o1uXY1o1vXY1p1mXY1p1nXY1p1oXY1p1pXY1p1qXY1p1rzY1J1u1
    B7WXY1I7y1HQu1qY1p1sXY1p1tXY1p1uXY1p1vXY1q1mXY1q1nXY1q1oXY1q1pXY1q1qXY1q1rXY1q1sXY1q1tXY1q1uXY
    1q1vXY1r1mXY1nPOeXY1oPOeXY1pPOeXY1qPOeXY1rPOeXY1sPOeXY1tPOeXY1uPOeXY1vPOeXZ1n1mPOeXZ1n1nPOeXZ1
    n1oPOeXY3e3dXZ3b3o3dXY3b3sXZ3i3q3a1mYJNaL4iXaC5YC6nC7yC6eXaC5YC7hC6rC5XXaC5YC7pC6wC5YXZC5YC7yC
    7hXaC5aC6hC7pC5mXZC5aC7pC6XXZC5cC5fC7pXbC5eC5vC5lC7yC6fXaC5eC7yC5hC7yXZC5gC7pC5vXZC5gC7yC7WXZC
    5hC5aC7gXaC5hC7fC6ZC6eXaC5hC7jC7gC7yXZC5iC7jC7pXZC5iC7pC6.XYC5kC5iXZC5kC6hC7yXaC5jC7bC7gC7yXaC
    5kC7hC6WC7yXYC5jC7jXbC5jC7jC5mC7fC7WXcC5jC7jC7XC7yC6eC7hXbC5jC7jC7lC6ZC6eXZC5mC7fC7WXbC5mC7fC7
    WC6eC7pXbC5lC7hC5yC5aC7jXaC5lC7jC7yC6jXZC5nC7yC5vXZC5pC7hC6gXZC5pC7yC6zXaC5rC5aC5lC7hXbC5rC7pC
    6XC7yC7WXaC5tC7gC7pC5mXZC5xC7pC6XXZC5xC7pC6eXZC6WC7yC5vXYC6dC5tXYC6fC7hXYC6eC7pXYC6gC6kXZC6kC6
    ZC6eXZC6lC5aC6aXbC6nC7yC5xC7pC6eXZC6nC7yC6aXaC6mC7yC7iC7hXbC6qC5YC5vC6eC7hXZC6qC5lC7hXYC6qC5pX
    YC6pC7hXbC6rC5XC7fC6ZC6fXaC6rC5ZC7yC6eXbC6sC6ZC5tC5dC7hXZC6rC7fC7pXbC6uC5lC5,C7yC7hXYC6wC5zXZC
    6wC6hC6oXZC6uC7hC6aXZC6wC7pC5vXZC6wC7yC5uXZC6vC7yC5,XaC6zC5aC7pC6eXZC6yC7hC6eXYC6xC7pXZC6zC7pC
    6fXZC6xC7yC7hXZC6xC7yC7pXaC6.C5aC5lC7jXZC6.C5aC7hXZC6.C6ZC6lXZC6.C7hC5lXbC6.C7pC5tC7dC7pXaC6,C
    5lC7jC7pXYC6,C7gXbC6,C7gC6mC7yC7hXYC7XC5iXaC7XC5iC6eC7pXaC7XC7yC6eC7hXZC7aC7yC6fXZC7aC7yC7hXZC
    7cC5YC7pXaC7gC6ZC6eC7hXYC7gC7fXZC7hC6qC7yXaC7hC7yC6sC7hXYC7iC7WXbC7iC7pC6eC5oC7pXZC7lC6ZC6eXY1
    mS5vXY1nS5vXY1oS5vXY1pS5vXY1qS5vXY1rS5vXY1sS5vXY1tS5vXY1uS5vXY1vS5vXZ1n1mS5vXZ1n1nS5vXZ1n1oS5v
    XZ1n1pS5vXZ1n1qS5vXZ1n1rS5vXZ1n1sS5vXZ1n1tS5vXZ1n1uS5vXZ1n1vS5vXZ1o1mS5vXZ1o1nS5vXZ1o1oS5vXZ1o
    1pS5vXZ1o1qS5vXZ3e3m3XXY3a3XXY3X3rXZ3Y3X3oXY3l3sXY3m3ZXY3a3jXZ3a3j1oXZ3a3j1pXY3f3rXYNJpOGmXYPH
    jL4iXYM9dQRZXYPGkR5xXaQ1gNOlJOwU9.XY3m3XXY3k3XXYTy3XXY3j3XXY3h3XXY3h3YXY3j3YXY3d3YXZ3Z3X3iXa3h
    3Z3X3iXY3m3cXY3k3cXYTy3cXYTy3dXY3j3dXY3h3dXY3e3wXZ3h3e3wXZ3j3e3wXZ3d3e3wXZ3q3e3wXYTy3iXY3j3iXY
    3a3iXY3h3iXY3c3jXY3k3jXYTy3jXY3j3jXY3Z3jXY3h3jXZ3j3j1oXZ3Z3j1oXY3j1oXZ3h3j1oXZ3j3j1pXZ3Z3j1pXY
    3j1pXZ3h3j1pZY3m3XXZ3h3m3XXZ3j3m3XXZ3d3m3XXZ3o3X3aZY3m3pXY3k3pXYTy3pXY3j3pXY3m3sXY3k3sXYTy3sXY
    3j3sXY3h3sXY3j3sXY3m3tXY3k3tXYTy3tXY3j3tXY3h3tXY3j3tXY3hUfXY3jUfYY3Y3nXY3Z3ZXY3Z3aZY3a3YXY3d3v
    XY3e3XXY3e3mXY3f3kXY3h3hXY3h3jXY3h3qXY3i3jXY3i3kXZ3i3l3dXY3i3uXY3j3YXZ3j3f3iXZ3j3l3iXY3m3eYZ3m
    3m3jXY3m3oXY3p3oXY3p3sXY3t3YZY1nPFbXY1oPFbXY1pPFbXY1qPFbXY1rPFbXY1sPFbXY1tPFbXY1uPFbXY1vPFbXZ1
    n1mPFbXZ1n1nPFbXZ1n1oPFbXZ1n1pPFbXZ1n1qPFbXZ1n1rPFbXZ1n1sPFbXZ1n1tPFbXZ1n1uPFbXZ1n1vPFbXZ1o1mP
    FbXZ1o1nPFbXZ1o1oPFbXZ1o1pPFbXZ1o1qPFbXZ1o1rPFbXZ1o1sPFbXZ1o1tPFbXZ1o1uPFbXZ1o1vPFbXZ1p1mPFbXZ
    1p1nPFbXZ3d3X3i1HOXY3c3cXY3c3fXY3c3iXZ3c3c3fXZ3c3c3iXY3p3qXY3p3qjY1Bq1BsXY1Bq1BbXY1Bq1BhXY1B.1
    BsXY1Bq1BjcY1Ev1DqYY1Fo1DthY1Ff1EXXY1Ff1EYXZ1Ff1Dy1EXXZ1Ff1Dy1EYXY1Em1DtXY1Em1DuXY1Em1DyXY1En1
    DyXY1Eo1DyXY1Ep1DyXY1Eq1DyXY1Er1DyXY1Es1DyYY1Eu1DyXY1Ev1DyXY1Ew1DyXY1Ex1DyXY1Ey1DyYY1E.1DyYY1F
    W1DyXY1FX1DyYY1FZ1DyXY1Fa1DyYY1Fc1DyXY1Fd1DyXY1Fe1DyXY1Ff1DyXY1Fg1DyXY1Er1DvXY1En1D,XY1Ex1D,XY
    1Fa1D,XY1Em1Ey4kY1Md1JqjY1Hc1HdXY1Hc1HdXY1Hc1MrXY1Hc1MrXY1Hc1IeXY1Hc1IeXY1Hc1MdXY1Hc1MdXY1Hc1M
    cXY1Hc1McXY1Hc1MeXY1Hc1MeXY1Hc1MmXY1Hc1MmXY1Hc1MmXY1Hc1IfXY1Hc1IfXY1Hc1IfbY1Hc1HiXY1Hc1HjXY1Hc
    1IbXY1Hc1IfXY1Hc1IgXY1He1HiXY1He1HjXY1He1HkXY1He1IbXY1He1IfXY1He1IgXY1Hg1HiXY1Hg1HjXY1Hg1HkXY1
    Hg1IbXY1Hg1IfXY1Hg1IgXY1Hh1HiXY1Hh1IbXY1Hh1IfXY1Hh1IgXY1Hi1HjXY1Hi1IbXY1Hj1HiXY1Hj1IbXY1Hk1HiX
    Y1Hk1HjXY1Hk1IbXY1Hp1HiXY1Hp1HjXY1Hp1HkXY1Hp1IbXY1Hr1HjXY1Hr1IbXY1Hs1HiXY1Hs1HjXY1Hs1HkXY1Hs1I
    bXY1Ht1HjXY1Ht1IbXY1Hu1IbXY1Hv1HiXY1Hv1IbXY1Hw1HiXY1Hw1IbXY1IX1HiXY1IX1HjXY1IX1HkXY1IX1IbXY1IX
    1IfXY1IX1IgXY1IY1HjXY1IY1IbXY1IY1IfXY1IY1IgXY1IZ1HdXY1IZ1HiXY1IZ1HjXY1IZ1HkXY1IZ1IaXY1IZ1IbXY1
    IZ1IfXY1IZ1IgXY1Ia1HiXY1Ia1HjXY1Ia1HkXY1Ia1IbXY1Ia1IfXY1Ia1IgXY1Ib1HiXY1Ib1HjXY1Ib1HkXY1Ib1IbX
    Y1Ib1IfXY1Ib1IgXY1Ic1HiXY1Ic1HjXY1Ic1HkXY1Ic1IbXY1Ic1IfXY1Ic1IgXY1Id1HiXY1Id1IbXY1Id1IfXY1Id1I
    gXY1Ig1HiXY1Ig1HjXY1Ig1HkXY1Ig1IbXY1Ig1IfXY1Ig1IgXY1Hm1JmXY1Hn1JmXY1If1JmdY1Hc1HnXY1Hc1HoXY1Hc
    1IbXY1Hc1IcXY1Hc1IfXY1Hc1IgXY1He1HnXY1He1HoXY1He1IbXY1He1IcXY1He1IfXY1He1IgXY1Hg1HnXY1Hg1HoXY1
    Hg1IbXY1Hg1IcXY1Hg1IfXY1Hg1IgXY1Hh1HnXY1Hh1HoXY1Hh1IbXY1Hh1IcXY1Hh1IfXY1Hh1IgXY1IX1IfXY1IX1IgX
    Y1IY1IfXY1IY1IgXY1IZ1HdXY1IZ1IaXY1IZ1IbXY1IZ1IfXY1IZ1IgXY1Ia1IbXY1Ia1IfXY1Ia1IgXY1Ib1HdXY1Ib1I
    bXY1Ic1HnXY1Ic1HoXY1Ic1IbXY1Ic1IcXY1Ic1IfXY1Ic1IgXY1If1JmXY1Ig1HnXY1Ig1HoXY1Ig1IbXY1Ig1IcXY1Ig
    1IfXY1Ig1IgXY1Hc1HiXY1Hc1HjXY1Hc1HkXY1Hc1IbXY1Hc1IdXY1He1HiXY1He1HjXY1He1HkXY1He1IbXY1He1IdXY1
    Hg1HiXY1Hg1HjXY1Hg1HkXY1Hg1IbXY1Hg1IdXY1Hh1IbXY1Hi1HjXY1Hi1IbXY1Hj1HiXY1Hj1IbXY1Hk1HiXY1Hk1IbX
    Y1Hp1HiXY1Hp1HjXY1Hp1HkXY1Hp1IbXY1Hr1HjXY1Hr1HkXY1Hr1IbXY1Hs1HiXY1Hs1HjXY1Hs1HkXY1Hs1IbXY1Ht1H
    jXY1Hu1IbXY1Hv1HiXY1Hv1IbXY1Hw1HiXY1Hw1IbXY1IX1HiXY1IX1HjXY1IX1HkXY1IX1IbXY1IY1HjXY1IY1IbXY1IZ
    1HiXY1IZ1HjXY1IZ1HkXY1IZ1IaXY1IZ1IbXY1Ia1HiXY1Ia1HjXY1Ia1HkXY1Ia1IbXY1Ia1IdXY1Ib1HiXY1Ib1HjXY1
    Ib1HkXY1Ib1IbXY1Ic1HiXY1Ic1HjXY1Ic1HkXY1Ic1IbXY1Ic1IdXY1Id1HiXY1Id1IbXY1Id1JmXY1Ig1HiXY1Ig1HjX
    Y1Ig1HkXY1Ig1IbXY1Ig1IdXY1Hc1IbXY1Hc1IdXY1He1IbXY1He1IdXY1Hg1IbXY1Hg1IdXY1Hh1IbXY1Hh1IdXY1Hp1I
    bXY1Hp1IdXY1Hq1IbXY1Hq1IdXY1IZ1IaXY1IZ1IbXY1Ia1IbXY1Ic1IbXY1Ic1IdXY1Ig1IbXY1Ig1IdaY1Ht1IfXY1Ht
    1IgXY1Hv1IfXY1Hv1IgXY1Hw1IfXY1Hw1IgXY1Hp1IfXY1Hp1IgXY1Hq1IfXY1Hq1IgXY1Hj1IfXY1Hj1IgXY1Hi1IfXY1
    Hi1IgXY1Hk1IfXY1Hk1IgXY1Hr1IfXY1Hr1IgXY1Hs1IfXY1Hs1IgXY1Hq1HiXY1Hq1HjXY1Hq1HkXY1Hq1IbXY1Hq1HnX
    Y1Hp1HnXY1Hr1HnXY1Hs1HnXY1Ht1IfXY1Ht1IgXY1Hv1IfXY1Hv1IgXY1Hw1IfXY1Hw1IgXY1Hp1IfXY1Hp1IgXY1Hq1I
    fXY1Hq1IgXY1Hj1IfXY1Hj1IgXY1Hi1IfXY1Hi1IgXY1Hk1IfXY1Hk1IgXY1Hr1IfXY1Hr1IgXY1Hs1IfXY1Hs1IgXY1Hq
    1HiXY1Hq1HjXY1Hq1HkXY1Hq1IbXY1Hq1HnXY1Hp1HnXY1Hr1HnXY1Hs1HnXY1Hq1HiXY1Hq1HjXY1Hq1HkXY1Hq1IbXY1
    Hp1IdXY1Hq1IdXY1Ht1IbXY1Hp1HiXY1Hp1HjXY1Hp1HkXY1Hq1HiXY1Hq1HjXY1Hq1HkXY1Ht1IbXY1Hu1IbXY1Hd1IhX
    Y1Hd1IhpZ1Hg1Hi1IbXZ1Hg1Hj1HiXZ1Hg1Hj1HiXZ1Hg1Hj1IbXZ1Hg1Hk1IbXZ1Hg1Ib1HiXZ1Hg1Ib1HjXZ1Hg1Ib1H
    kXZ1Hi1Ib1HjXZ1Hi1Ib1HjXZ1Hj1Ib1IgXZ1Hj1Ib1IfXZ1Hp1Hj1HiXZ1Hp1Hi1HjXZ1Hp1Hi1IfXZ1Hp1Ib1HjXZ1Hp
    1Ib1HjXZ1Hp1Ib1HiXZ1Hp1Ib1IbXZ1Hp1Ib1IbXZ1Hr1Hj1HjXZ1Hr1Hj1HjXZ1Hr1Ib1IbXZ1Hq1Hj1IbXZ1Hq1Hj1Ib
    XZ1Hq1Hi1IgXZ1Hq1Ib1HkXZ1Hq1Ib1HkXZ1Hq1Ib1IbXZ1Hq1Ib1IbXZ1Hs1Hj1IfXZ1Hs1Hk1IbXZ1Hs1Hk1IbXZ1Ht1
    Ib1HjXZ1Ht1Ib1HjXZ1Ht1Ib1IbXZ1Ht1Ib1IgXZ1Hv1Hi1IbXZ1Hv1Ib1IbXZ1Hv1Ib1IbXZ1Hv1Ib1IfXZ1Hw1Ib1IbX
    Z1Hw1Ib1IgXZ1Hw1Ib1IfXZ1IX1Hk1IbXZ1IX1Hk1IbXZ1IY1Ib1HjXZ1IY1Ib1IbXZ1Ia1Hj1IbXZ1Ia1Hj1IgXZ1Ia1H
    j1IfXZ1Ia1Hi1HiXZ1Ia1Hi1HiXZ1Ia1Hk1IbXZ1Ia1Hk1IbXZ1Ia1Ib1HjXZ1Ia1Ib1HjXZ1Ib1Hj1HiXZ1Ib1Hj1IbXZ
    1Ib1Hj1IgXZ1Ib1Hi1HjXZ1Ib1Hi1IbXZ1Ib1Hk1HiXZ1Ib1Hk1IbZZ1Ib1Hi1HkXZ1Id1Ib1HiXZ1Id1Ib1IbXZ1Ic1Hj
    1IbXZ1Ic1Hj1IfXZ1Ic1Hi1IbXZ1Ic1Hi1IbXZ1Ic1Hi1IfXZ1Ic1Ib1IgXZ1Ic1Ib1IfXZ1Ig1Ib1IbXZ1Ig1Ib1IbXZ1
    He1Hk1IgXZ1Hg1Hi1IgXZ1Hg1Hi1IfXZ1Hg1Hk1IgXZ1Hg1Hk1IfXZ1Hg1Ib1IgXZ1Hg1Ib1IfXZ1Hi1Ib1IgXZ1Hi1Hj1
    IfXZ1Hi1Ib1IfXZ1Hp1Hk1IfXZ1Hr1Hj1IgXZ1Hq1Hj1IgXZ1Hs1Hj1IgXZ1Ia1Hi1IgXZ1Ia1Ib1IgXZ1Ig1Hj1IgXZ1I
    g1Hi1IgXZ1Ig1Ib1IgXZ1Ib1Ib1IgXZ1IY1Ib1IgXZ1Ic1Hj1IgXZ1IY1Ib1HjXZ1Ia1Hj1IbXZ1Hv1Ib1IgXZ1IZ1Ib1I
    gXZ1Ic1Hi1HjXZ1Ib1Hk1IgXZ1Ia1Hi1IbXZ1IZ1Ib1IbXZ1Ia1Hi1IbXZ1Ic1Hi1HjXZ1Hi1Hj1IgXZ1Hj1Hi1IgXZ1Ib
    1Hi1IgXZ1IX1Ib1IgXZ1He1Hj1IgXZ1IZ1Ib1IbXZ1Hv1Hi1IbXZ1Hr1Ib1IbXZ1Hp1Hk1IgXZ1Ic1Hi1Ig1fZ1Hr1Ia1M
    oXZ1IY1Ia1MoXa1Hd1Ia1Ia1IdXa1Hd1IZ1He1HnXa1Ib1Hj1Ib1HlXa1Hr1Ia1Hv1IbXa1Hn1Hp1Ie1IaXa1Hv1Ia1Ig1
    IdXa1Ie1Hp1Ia1IbXZ1Hr1Ia1IfZa1Hn1Mi1Hd1Ia7vY1Ia1HYXY1Ia1HYXY1Ia1HZXY1Ia1HZXY1Ia1HbXY1Ia1HbXY1I
    a1HdXY1Ia1Hd1SHnY3Z3aXY3t3wyY3e3sXY3j3sXY3p3aXY3p3pXZ3m3m3sXY3t3ZxY3j3ZXY3j3aXY3j3o1aY3a3g3mYC
    3xC2hXYC5pC5p")

/-- The characters that are left out. -/
def unseen : CodeSet := CodeSet.ofPacked
  "5jXLXX3GlY1IpY2rb1VxX2qbbc47qX1J4xm7lX5WX1F7,a56leOBSb7m"

/-- What a character is mapped to. -/
def mappedPoint (c : CodePoint) : Text :=
  if unseen.has c then []
  else
    match mappedRuns.findSome? (·.target? c.val) with
    | some n => [CodePoint.ofNat n]
    | none =>
      match mappedTexts.lookup c.val with
      | some ns => ns.map CodePoint.ofNat
      | none => [c]

/-- **The plain form** of a name. -/
def mapped (t : Text) : Text := Text.normal (t.flatMap mappedPoint)

end Domain
end OpenBroker
