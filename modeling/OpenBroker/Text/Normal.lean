import OpenBroker.Text.Class

/-!
# The composed normal form

A letter with a mark can be one character or two, and marks above and below a letter can
stand in either order.  The normal form is the same for all these spellings: characters
are taken apart as far as possible, the marks behind a letter are put in the order of
their classes, and then every mark is joined to its letter again where there is a
character for both.  Some characters are never made by joining.

The syllables of Hangul are taken apart and joined by calculation.
-/
namespace OpenBroker
namespace Normal

/-- **Decomposition** of a code point: its first part, and the second one unless that is
zero. -/
structure Decomposition where
  whole : Nat
  first : Nat
  second : Nat
  deriving DecidableEq, Repr

/-- The decompositions in a table; the first parts are given by their distances from the
whole. -/
def decompositionsFrom (last : Nat) : List Nat → List Decomposition
  | gap :: distance :: second :: rest =>
    let whole := last + gap
    ⟨whole, Packed.displaced whole distance, second⟩ :: decompositionsFrom whole rest
  | _ => []

/-- The decompositions of single code points, one step deep. -/
def decompositions : List Decomposition := decompositionsFrom 0 (Packed.numbers
  "6W7zOWX7,OXX8XOYX8ZOZX8bOeX8dOgY8dPdX8bOWX8dOXX8fOYX8hOeX8bOWX8dOXX8fOYX8hOeY8bOZX8bOWX8dOXX8f
    OYX8hOZX8jOeZ8dOWX8fOXX8hOYX8jOeX8dOXZ7zOWX7,OXX8XOYX8ZOZX8bOeX8dOgY8dPdX8bOWX8dOXX8fOYX8hOeX8
    bOWX8dOXX8fOYX8hOeY8bOZX8bOWX8dOXX8fOYX8hOZX8jOeZ8dOWX8fOXX8hOYX8jOeX8dOXY8hOeXBzOaX9,OaXCXOcX
    AZOcXCbPeXAdPeXCbOXXAdOXXCfOYXAhOYXCjOdXAlOdXCnOiXApOiXCpOiXArOiZCvOaXAxOaXCzOcXA,OcXDXOdXBZOd
    XDbPeXBdPeXDfOiXBhOiXDfOYXBhOYXDjOcXBlOcXDnOdXBpOdXDrPdXBtPdXDtOYXBvOYZDzOZXB,OZXEXOaXCZOaXEbO
    cXCdOcXEfPeXChPeXEjOdaEpOYXCrOYXErPdXCtPdYEvOXXCxOXXEzPdXC,PdXFXOiXDZOibFfOXXDhOXXFjPdXDlPdXFn
    OiXDpOiaFvOaXDxOaXFzOcXD,OcXGXOhXEZOhZGZOXXEbOXXGdPdXEfPdXGhOiXEjOiXGjOXXElOXXGnOYXEpOYXGrPdXE
    tPdXGvOiXExOiXGxPdXEzPdXG,OiXFXOiZHbOZXFdOZXHfOaXFhOaXHjOcXFlOcXHnOgXFpOgXHrOhXFtOhXHvPeXFxPeX
    HvOYXFxOYXHvOYXFxOYXHzOeXHzOXXF,OXXIXOdXGZOdXIbOiXGdOi1YLXOxXJZOxkLpOxXJrOxzOtOiXMvOiXOhOiXMjO
    iXOZOiXMbOiXNxOiXLzOiXFnOaXDpOaXFrOXXDtOXXFvOiXDxOiXFzOWXD,OWYHpOaXFrOaX4iOaX4iOaXHtOaXFvOaZPz
    OiXN,OiXPvOiXNxOiXPrPeXNtPeXZOaXZOaX3jOiXAcOiXOhOiaQvOXXOxOXZQpOWXOrOWXJfOXXHhOXXJhOXXHjOXXIhO
    XXGjOXXRzOlXP,OlXSXOnXQZOnXRzOlXP,OlXSXOnXQZOnXRzOlXP,OlXSXOnXQZOnXRvOlXPxOlXRzOnXP,OnXRxOlXPz
    OlXR,OnXQXOnXRzOlXP,OlXSXOnXQZOnXSfPcXQhPcXShPcXQjPcZThOiXRjOidUfOdXShOdXUbPdXSdPdXLdOaXJfOaXL
    jOaXJlOaXTzOdXR,OdXZOaXZOaXTnOaXRpOa8j3,WX3,WY2,WX3tOX1mBrWg1KbWd1DvOXXsOXX1C,WXwOXXyOXX.OXY1c
    OXY1kOXX1qOXX3qOXw1XOeXhOeXgOXXmOXXoOXXqOXX1sOXw1XOeXhOeXvOXXlOXXfOXbXOXXZOe1i1gOWX1eOeY1WOXaX
    OebyOXXsOWX1gOchXOc1WXOct1rOWX1tOeY1,OXaXOeb2ZOXX2fOWX1rOcuZOlXZOl2gArOcX8tOckB,OcXAXOcXCZOeXA
    bOeZCXOcXAZOcZZOeXZOeXChOeXAjOeXCjOeXAlOeZCpOaXArOaXCtOeXAvOeXClOeXAnOeZZOeXZOeXBzOeX9,OeXCrOa
    XAtOaXCvOeXAxOeXCzOhXA,OhXCvOeXAxOeZCvOeXAxOe9fg1IpXe1IqX2e1IqXa1IrX2e1Iq4w1g1IqYX1IqnX1IqIsX2
    9yeX29yZX29y1a4b29yX4b29yX4b29yX3z29yX3r29yX3r29yX3b29yX2,29y3id2D.Xf2Etm3r2DyX3r2DyY2,2Dy2qX2
    HyZa2Hy1Z4b2HyX4b2HyX3z2HyZ3b2Hy7gX2QsZd2P.Xf2Qtm3r2PyX3r2Py1tZ2Ut1sd2T.Xd2T.Xh2Ut3yZ32s3uX36r
    dX36rXZ36sYd36YXX36r3,d39.Xd39.Xh3At4kX3EgYb3ElXX3EgXf3E,BbX3TtgX3TtbX3TtbX3TtbX3Ttj2n3TrgZ3Ro
    Yd3RqX3u3SWY3s3SWf,3SWoX3TtgX3TtbX3TtbX3TtbX3Ttj2n3Tr3jX41k2NWX6PrYX6PrYX6PrYX6PrYX6PraX6Pr1fX
    6PrYX6PrZZ6PrXZ6PrYX6PrLzERzPbXEP,PbXER,OdXEQXOdXESZPZXEQbPZXESdPnXEQfPnXEKXOXXEIZOXXEShOdXEQj
    OdXESlPZXEQnPZXESpPnXEQrPnXEStPdXEQvPdXESxPjXEQzPjXEGZOWXEGZOWXEGdOXXEGdOXXETbPjXERdPjXETfPmXE
    RhPmXDVdOcXDVdOcXETlOdXERnOdXETnOaXERpOaXETpOdXERrOdXETtPZXERvPZXETxOeXERzOeXET,PdXESXPdXEUZPk
    XESbPkXEUbPmXESdPmXELzOXXEJ,OXXEUfOXXEShOXXEUjPZXESlPZXEUnPnXESpPnXEUpPZXESrPZXZOaXZOaXEUxPnXE
    SzPnXEU,PjXETXPjXEVXOXXETZOXXEVbOdXETdOdXEVfPZXEThPZXEVhOdXETjOdXEVlPZXETnPZXEVpPnXETrPnXEVtPj
    XETvPjXENjOXXELlOXXENnOeXELpOeXEGdOWXEGdOWXEGhOXXEGhOXXF0dOXXEUfOXXF0hOdXEUjOdXF0hOdXEUjOdXF0l
    PZXEUnPZXZOaXZOaXF0tPnXEUvPnXF0vOdXEUxOdXF0zPZXEU,PZXEGpOdXEGpOdXEGhOdXEGhOdXhOdXhOdXF1hOdXEVj
    OdXF1lPZXEVnPZXF1pPnXEVrPnXF1tPjXEVvPjXF1vPaXEVxPaXF1zPmXEV,PmXF2XPjXF0ZPjXEG,OXXEG,OXXEG,OeXE
    G,OeXF2hOZXF0jOZXF2lPZXF0nPZXF2nOWXF0pOWXF2rOXXF0tOXXF2vOeXF0xOeXF2zOdXF0,OdXF3XPZXF1ZPZXF3ZOd
    XF1bOdXF3dOeXF1fOeXF3fOdXF1hOdXF3hOYXF1jOYXF3lPZXF1nPZXF3pPnXF1rPnXF2xPnXF2bOeXF2XOgXF1,OgYEHt
    OdbF5zPZXF3,PZXF6XOfXF4ZOfXEUZOXXESbOXXEUdOWXESfOWXEUhOfXESjOfXEUlOZXESnOZXtOYXtOYXEQtOXXEQtOX
    XEQxOWXEQxOWXEQ,OfXEQ,OfXERZOZXERZOZX1hOcX1hOcXF7bPZXF5dPZXF7fOfXF5hOfXF7jOZXF5lOZXEVdOXXETfOX
    XEVhOWXETjOWXEVlOfXETnOfXEVpOZXETrOZXxOYXxOYXF7zOfXF5,OfXF8XPZXF6ZPZXF7vPZXF5xPZXF7zOfXF5,OfXE
    VtOXXETvOXXEVxOWXETzOWXEV,OfXEUXOfXF0ZOZXEUbOZXtOYXtOYXEJpOXXEJpOXXEJtOWXEJtOWXEJxOfXEJxOfXEJ,
    OZXEJ,OZXEKZPZXEKZPZXF8zPZXF6,PZXF9XOfXF7ZOfXEJnOXXEJnOXXEJrOWXEJrOWXEJvOfXEJvOfXEJzOZXEJzOZXE
    KXPZXEKXPZXF9nOWXF7pOWXF9rPZXF7tPZXF9vOfXF7xOfXF9zOZXF7,OZdDKzOpXDK,OqXZOWXZOWXdOXXdOXXhQYXhQY
    XDNjOpXDNlOqXZOWXZOWXdOXXdOXXhQYXhQYXDLrOpXDLtOqXZOWXZOWXdOXXdOXZDObOpXDOdOqXZOWXZOWXdOXXdOXZD
    MnOpXDMpOqXZOWXZOWXdOXXdOXXhQYXhQYXDPXOpXDPZOqXZOWXZOWXdOXXdOXXhQYXhQYXDNjOpXDNlOqXZOWXZOWXdOX
    XdOXXhQYXhQYXDPzOpXDP,OqXZOWXZOWXdOXXdOXXhQYXhQYXDOXOpXDOZOqXZOWXZOWXdOXXdOXZDQnOpXDQpOqXZOWXZ
    OWXdOXXdOXZDOrOpXDOtOqXZOWXZOWXdOXXdOXXhQYXhQYYDRdOqYZOWYdOXYhQYXDPjOpXDPlOqXZOWXZOWXdOXXdOXXh
    QYXhQYXDRzOpXDR,OqXZOWXZOWXdOXXdOXXhQYXhQYXDRzOWXDSfWXDRvOWXDShWXDRvOWXDSjWXDRvOWXDSlWXDRnOWXD
    QvWXDRfOWXDQxWXDRbOWXDQzWZ7,QbX7,QbX7,QbX7,QbX7,QbX7,QbX7,QbX7,QbX7,QbX7,QbX7,QbX7,QbX7,QbX7,Q
    bX7,QbX7,QbX6,QbX6,QbX6,QbX6,QbX6,QbX6,QbX6,QbX6,QbX6,QbX6,QbX6,QbX6,QbX6,QbX6,QbX6,QbX6,QbX3,
    QbX3,QbX3,QbX3,QbX3,QbX3,QbX3,QbX3,QbX3,QbX3,QbX3,QbX3,QbX3,QbX3,QbX3,QbX3,QbXDVzOcXDV,OaX4ZQb
    XE0ZQbXE0lQbYE0fQYXXQbXE2jOcXE2lOaXE2nOWXE3fWXE2rQbYE0fWZFHnQYX4xQbXE0tQbXE1hQbYE0zQYXXQbXE3bO
    WXE4XWXE3bOWXE4ZWXE3fQbXxOWXzOXX,QYXE1jOcXE1lOaXE0lOWXE4bWZE1vQYXE0vQYXE3zOcXE3,OaXE4XOWXE5XWY
    2YOWX2WOXX1.QYXE1rOcXE1tOaXE1jOWXE3bWXE2bOpXE2dOqXE2XQYXE1tQYXE4bOcXE4dOaXE4fOWXE5vWXE4rOqXFKf
    OWXE6nWXFOzWZ7hQbXE2pQbXE2hQbYE2vQYXXQbXE5nOWXE6vWXE5XOWXE6tWXE5bQbXFKnWZaWXaW9bENvWaGDzWXG6hW
    3lpPuXnPup1pPu,cPuXiPuXcPu1rXPubXPuZXPuuXPuYXPuxfPuZXPuZZPuYXPutH2bPuYXPuh1,PuXH3ZPuXH3XPuXtPu
    XtPuZZPuXZPuZZPuXZPudhPuXhPuZZPuXZPuZZPuXZPu1ZpPuXfPuXfPuXdPu1n6dPuX6dPuX5XPuX5XPud3lPuX3lPuX3
    lPuX3lPu1y6D.WX6D.W1ToYPu1BmXC4vYXC4vYXC4vYXC4vYXC4vYXC4vYXC4vYXC4vYXC4vYXC4vYXC4vYXC4vZXC4vYX
    C4vYXC4vdXC4vXZC4wYXC4vXZC4wYXC4vXZC4wYXC4vXZC4wYXC4vXZC4wt4xC4vgXC4vkXC4vYXC4vYXC4vYXC4vYXC4v
    YXC4vYXC4vYXC4vYXC4vYXC4vYXC4vYXC4vZXC4vYXC4vYXC4vdXC4vXZC4wYXC4vXZC4wYXC4vXZC4wYXC4vXZC4wYXC4
    vXZC4wt4xC4vZlC4vXlC4vXlC4vXlC4vaXC4v1I0Y1MBlWX290vWX1L3lWX1M3rWX253bWX2LDbWX2IIXWX1CMrWX1CMtW
    X2FRlWX1JJnWX2HOdWX2FSdWX2BHjWX21AfWX1SOpWX1PDXWX1OLjWX1O1pWX1K8dWX27HZWX25VpWX243vWX22JnWX1QD
    rWX1JQzWX1FInWX2L9nWX2IQjWX271nWX23GbWX1PFZWX1DGZWX2DTXWX24JjWX1PLhWX1NR,WX2B5tWX1RKxWX1OGlWX2
    D5xWX291ZWX25R,WX232zWX1K5xWX2KQjWX2JNjWX2J5XWX2A6tWX275xWX23IZWX214tWX1SJbWX1PIzWX1PDpWX1LKlW
    X1H0hWX1ESpWX1DJ,WX20AzWX1VRvWX1TPvWX1QNfWX1J3rWX1DCXWX1N6rWX2G6bWX2D3zWX1UEdWX1SCjWX23EdWX207
    vWX1M8hWX1H5ZWX2G7ZWX2EEnWX27JnWX25NbWX253zWX1U1,WX1THnWX1HGhWX2J7,WX1SClWX2JNlWX2JOnWX1VJpWX1
    TPnWX1QMjWX1HEdWX1MTpWX2B8tWX27LpWX1N5zWX2LIfWX2ENlWX2CKxWX22TpWX21VZWX2J4tWX206nWX2KQhWX2CRvW
    X2LLpWX269tWX29VXWX1U4lWX2IQlWX2GGxWX216tWX1QIfWX1NCfWX26RhWX1KSXWX26EpWX2B7fWX1R8zWX2ATfWX221
    XWX2LCnWX2K0zWX2JQ,WX28FnWX1U9dWX1RGvWX1NArWX1JQzWX2J8pWX2IJxWX2G0xWX2D9hWX29RxWX24OhWX205rWX1
    HTnWX1FHvWX1DFXWX1DBrWX2JEzWX29CfWX271fWX1L2rWX2DHpWX2BVzWX2BO,WX2AFjWX256zWX244pWX22GrWX1VSrW
    X1TQZWX1SIlWX1L7ZWX1QArWX1KNjWX1J5XWX2JOfWX2JFpWX2IEXWX24DjWX1ODxWX1NFjWX2DDnWX2CQxWX2B2nWX26V
    jWX1UMlWX233ZWX2LCdWX2HA,WX2ESbWX2DVXWX2CO,WX22VrWX22KfWX1T1fWX1SMpWX1JNvWX1HBtWX1H6rWX1GPtWX2
    L2pWX200lWX1K0bWX1HF,WX2CDlWX2LJdWX2KEXWX2ESxWX2ENxWX2A2fWX27RvWX23VZWX21NzWX1QChWX1KKjWX1D3jW
    X29JvWX1HPlWX2JJxWX294vWX28ThWX268nWX25IzWX22SbWX227dWX20MbWX1UBzWX1GNZWX2K6dWX2BQdWX1HLrWX2KQ
    nWX2EBtWX25UtWX1LAvWX2D4vWX2C9fWX28SbWX235dWX1HLhWX2JRdWX2ISzWX2ENpWX29SvWX299bWX28JpWX26FxWX2
    2TxWX220bWX1T6vWX1OHlWX1OGjWX1K1vWX1HGlWX2JAtWX25JZWX2IS,WX241xWX22LjWX1PVhWX1HKxWX1EPrWX1DLdW
    X295vWX262pWX1S0xWX1VItWX1VDlWX1UMjWX23JpWX24MZWX1NAdWX2LJvWX1RClWX2JSfWX2JVnWX2DLrWX2BIzWX1UI
    vWX2F7zWX26EjWX29LZWX1LCtWX1ORtWX1HRtWX1O7zWX2DJlWX2KCtWX2I4vWZ2GRhWY29PxWZ2K3jWX23EtWX21KvWX2
    0DtWX20BrWX20BfWX208tWX1HChWX1ULzWX1T6XWY1Q0xWY1NIpWZ1KUvWX1KInWa1GJrWX1GIzWX1GGdWX1E7nWX1KK,W
    X1HNlWX2L8ZWX2KKpWX2KEfWX2JMpWX2JK,WX2JEdWX2I9nWX2I3XWX2HS,WX2GVnWX2GPZWX2ETjWX2ESxWX2CQnWX2CD
    hWX2CBXWX2C4xWX2AFZWX2A5,WX29RZWX28RzWX26CxWX262tWX25IfWX24DpWX241xWX232lWX20RpWX20GxWX20GdWX2
    0GhWX20FzWX20FpWX20FdWX20CfWX20CfWX201dWX1VTdWX1V9hWX1U6bWX1U4zWX1U1lWX1TElWX1T5hWX1S6zWX1RUdW
    X1RUfWX1R0lWX1OK,WX1OCrWX1NMXWX1NIpWX1MPXWX1MLvWX1LA,WX1L2zWX1HOfWX1H6pWX1H2zWX2CVhWX548aWX1S5
    fWZ2M4pWX2KBtWX2KGpWX2LFbWX2KIzWX2KFfWX2JQzWX2JNvWX2IDrWX2IIdWX2IEXWX2I9nWX2H2ZWX2GSpWX2GJpWX2
    GIrWX2G1xWX2FLnWX2DQ,WX2DQpWX2DHrWX2DDlWX2CQxWX2CJnWX2CN,WX2CFrWX2CIpWX2C9nWX2C5lWX2BCnWX2B7ZW
    X2B3vWX2AJpWX2A1vWX29NrWX29NlWX29JxWX27HtWX27DtWX26LhWX25RvWX25SxWX25NlWX257vWX24IxWX21FhWX246
    nWX23U,WX23NhWX232,WX22PtWX22MlWX228jWX228hWX21TtWX21StWX21RdWX21LzWX21MpWX20TzWX1VVrWX1VEvWX1
    V3bWX1ULdWX1UBtWX1TNbWX1TAvWX1RMXWX1RCfWX1PJtWX1ONfWX1OJXWX1OIZWX1NVpWX1NSZWX1NU,WX1NRrWX1NRzW
    X1NTXWX1NOhWX1NJhWX1MRnWX1LOpWX1L5XWX1KIrWX1K4zWX1I4pWX1HUdWX1HNZWX1HExWX1HCrWX1HB,WX1H9XWX1FR
    rWX1DJZWX4MNsWX4MNeWX4SGeWX2VJfWX2TBrWX2T9rWX5BNeWX5GVqWX61VuWX1DPfWX1DKrW2a3QKd1DqY3QIv1Dth3Q
    KX1EXX3QKZ1EYX1w1EXX1u1EYX3QLx1DtX3QLz1DuX3QL,1DyX3QL,1DyX3QL,1DyX3QL,1DyX3QL,1DyX3QL,1DyX3QL,
    1DyY3QL,1DyX3QL,1DyX3QL,1DyX3QL,1DyX3QL,1DyY3QL,1DyY3QL,1DyX3QL,1DyY3QL,1DyX3QL,1DyY3QL,1DyX3Q
    L,1DyX3QL,1DyX3QL,1DyX3QL,1DyX3QNh1DvX3QNr1D,X3QNZ1D,X3QMp1D,5AiX245wYX245wlh245w4Zc249dXc249d
    Gyd24P.Xf24QtBlZ255wXb255mYf255z7yZ25DlXZ25DlRzb269m1E1cj3KBbXj3KBbXX3KBkXZ3KBlXb3KBmXd3KBnXf3
    KBo2tZ3KBbXZ3KBbXZ3KBkXZ3KBkXd3KBlXd3KBl29IWAKSbWXAKSnWXAKSXWX3REXWXAKAdWXAK5jWXAK4rWXAK0fWXAJ
    OxWXAJM,WXAJIbWXAJJtWXB1MxWX3OTbWXAJCXWXAJBrWXAJAtWXAJ9pWX3PFhWXB1LpWXAJAvWXAJ8lWX3PCrWXAJ7,WX
    AJ7dWXAKKvWXAJ6xWXAJ6hWX1J3vWXAJ2lWXAJ1rWXB1J,WXAIUfWXAITrWXAIQ,WXAIQtWXB1GzWXAILxWXAILvWXAIKb
    WXAIIxWXAIIdWXAIIdWXAIHdWXAIEbWXAIDtWXAIDdWXAIBtWXAIBbWXAIBZWXAIBbWXAIBdWX3N0lWXA3SfWXAI6tWXAI
    5lWX3MDfWXAI4xWXAI4nWXAI3fWXAHPxWXAI0fWXAHVhWXAHTjWXAHPxWXAHKrWXAHJZWXAHE,WXAHEXWXAHCXWXAHCZWX
    AHAxWXAH9vWXAH9hWXAH8lWXAGJfWXAH4hWXAGJhWXAGVvWXAGTrWXAJ4nWXAFMbWXAG8dWXAG5zWXAG4jWXAGCpWXAG2d
    WXAG2hWXAFQtWX3HNfWXAFMlWXAFMdWXAFLhWXAFKbWXAFJtWXAFFvWX3GRlWX3GNjWXAF7hWXAF4lWXAF3vWXAF8vWXAE
    V,WXB0NnWXB0MtWXAEMXWXAEItWXAEIvWX3FAdWXAEApWXAE9hWXAE8lWXAE7vWX3ELnWXAE7bWXAE6vWXACIXWXAE5bWX
    B0FfWXAE1jWXAE0pWXADRnWXADUvWX3D9jWXADJnWX3D9jWXADG,WXADHdWXADGdWXAD9,WXAD9,WXB05dWXAD8jWXAD5v
    WXAD4nWXAD1xWXB02hWX3BGhWXB00xWXACTrWXACTnWXACTjWXACSdWX1AFvWXACPZWX3AL,WX3AMXWX9R9ZWXACNZWXAC
    NbWXAVSzWX32TzWX2BBxWXACJjWXACIzWXAVRlWXACGZWXACC,WXACCjWXACAhWXAC1zWXAVMjWXAVOhWXAC0zWX38S,WX
    ABTxWXABLxWXABLrWXABLpWXABLvWXABI,WXABHvWXABFpWXABGnWXABFzWXABDXWXABBxWXABBrWXABAZWXAB9lWXAB5j
    WXAB0dWXAAUZWXAAMjWX36QtWXAANtWXAARxWXAALbWXAAJnWXAADnWX36CvWXAA9vWXAAFrWXAAHlWXAV9dWXAA5pWXAA
    4hWXAA2lWXAA4zWXAV5rWXA9NnWXA9LvWX34B,WXA9ElWXA8TdWXA98dWXAURfWXA93xWXAUSlWXAUUvWXAJJ,WXAJJxWX
    A8TdWXA93nWX9S2nWXAQFxWXA8SXWXA8RxWXA8RnWXA8NvWXA8OnWX32HpWXAUPfWXA8EfWXA8LrWXA88zWXA85vWX327h
    WXA85hWXA8ChWXA7TZWXAUKpWXA7QhWXA7KhWXA7F,WXA74bWX314nWXA71ZWXAUDhWXA6SxWX304nWXA6PvWXAUAdWXA6
    OXWXA6LfWXA6JrWXA6JrWX2V6pWX3DUvWX2UVzWXA6AtWX2U3zWXA63vWXA62,WXA69jWXA5UnWXA5SZWXA5OpWXA5SXWX
    A5PpWXA5OtWXA5N,WX2TUlWXA5TbWXA5DnWXA59rWXATTjWXA53,WXA54fWX2T3tWXA5HfWXA4QXWX2SRZWX2SObWXA4Kt
    WXA4DpWXA4FhWXA4FpWXATN,WXA4CvWXA49rWXA4AZWXA46vWX3PVhWXA3TjWX2RBpWXA3OZWX2QNdWXA3FlWXA3EtWXA3
    DZWX2PHrWXA3AdWXA38,WX2OVXWX2OHbWXA2QxWXA2PxWXAT7xWXA2OhWXAT7dWXAT7fWXA2EjWXA2DbWXA2BzWXA2AtWX
    A26lWXAT1lWXA20,WX2MFzWXA1VlWX2MAfWXA1SlWX3BPpWXA1IpWX2KPpWX2KOdWX2KFnWXASKZWXASJjWXA14tWX2K4x
    WX2K4,WX2K2pWX2K1XWXA12jWXA12jWXA12lWXA0VxWXASG,WXA0RzWXASGfWXASBhWX2II,WXA0F,WXA0CbWXA08dWXAS
    6xWX2HItWX9VVvWX2HBpWX2H8,WX9VSjWX9VMtWXAS2nWX9VHnWX9VG,WX9VGtWX2FT,WX2FBhWX2FBjWX9V7XWXARLxWX
    2ERhWX9UPtWX9UPpWXARJvWX2EEfWX9U9dWXARCjWX9U7,WX9U8hWX9U6pWX2CUfWX9U0nWXAR6tWX9TQjWX9TMvWX9TIr
    WXAR3vWX2BKpWX2BItWXAR1rWX2B9tWX9SVtWX2B3nWX9SUbWX9SNzWX9SNfWX2AAXWX2A5nWX9SHvWX29ThWX9SGzWX33
    2XWXAQQtWX9SC,WX9S7,WXAQNnWX9S4jWXAFDXWX28T,WX28TbWX32VhWX32UxWX9ROpWX9ROlWX9KUzWXAQIbWX9RFxWX
    9RGfWX9RFdWXAJDzWX9REZWX9REXWX9RDlWX9RA,WX275rWX9RBbWX9R7tWX9R3jWX9QUxWX9R7nWX9QT,WX9QRjWX9QKl
    WX9R4vWX9QTjWX9QThWX9QSjWX26MxWX263pWX26DXWXAQ7tWX9QBjWX9QBhWX9Q9dWX22UXWX9Q4lWX258XWXAQ5XWXAQ
    4xWX24VzWX24DzWXAQ4jWX9PMbWX9PLlWX9PKxWX9PKvWX9PGxWX9PI,WX9PArWX9PDlWX9P4ZWX9P9dWX9P5ZWX9P3lWX
    APUlWX9OTzWX9OR,WXAPSnWX9OMbWX9OMXWX21LxWX9OEzWX9OEnWXAPPbWX9OCzWXB2GzWX20HvWX206hWXAPGzWXAPGj
    WX9NIzWX9NEbWX9N4jWX9MNvWX1UIrWX9MInWX9MHdWX9MBrWX9M5,WX1TAnWX3OTfWX9M0zWX9M1zWX9LUtWX3OFzWX9L
    GpWX9LAjWX1Q0xWX1PVdWX9KKxWX9KFZWX9KDbWX1PBjWX9KCrWX9JQzWX9JHXWX9JHXWX9JMxWX9IVZWX9ITjWX1MVbWX
    9I6bWXAO5pWX9I3nWX1M7pWXAO0tWX9HI,WXAE4ZWX9HDZWX1KBXWX1JTvWXANOpWXANObWX9H1pWX1IVXWXANKpWX1IMj
    WX9GVbWX9GVdWX9GTjWX1I4rWX9GH,WXANC,WX9GDrWX9G5xWX9G4dWX9G0nWXAN3pWX1FDnWX9FFlWX9ESrWX9EGzWXAM
    JzWXAMIXWX9EAlWX1CKZWXAMHnWX1CGvWX1C0fWX1BObWX9DLpWXAMB,WX9DHxWX9DHpWX9DHdWX9DGrWX9DGfWX9DEXWX
    1A1vW")

/-- The code points that are never made by joining. -/
def unjoined : List Nat := Packed.ascending (Packed.numbers
  "Qa1GqXXXXXXX3zXY2qZ1ZXXZ7.XVcgbbbjgYXYfogbbbj6PZ1K2XYhXXXXXXXXXXXXYXXXXYYXYXYXXXXXXXX1LGmXXXXX
    X2tXXXXX")

/-- The decompositions that can be undone. -/
def compositions : List Decomposition :=
  decompositions.filter fun d => d.second != 0 && !unjoined.contains d.whole

/-- **Run of marks** of one class. -/
structure MarkRun where
  first : Nat
  last : Nat
  rank : Nat
  deriving DecidableEq, Repr

/-- The runs in a table. -/
def markRunsFrom (last : Nat) : List Nat → List MarkRun
  | gap :: width :: rank :: rest =>
    ⟨last + gap, last + gap + width, rank⟩ :: markRunsFrom (last + gap) rest
  | _ => []

/-- The marks with a class. -/
def markRuns : List MarkRun := markRunsFrom 0 (Packed.numbers
  "OWq7crW7eXZ6yaW7eXW6uXa6ybX6gYZ6yaX6gYg6yhaXbZ6yad7ceW7mXW7cXY6yZY7cZX6yZY7cZZ6yaW7cXW7eXX6yYW
    7cXW7fXX7gYW7fXX7gYW7fXi7c9Wa7c8kW6yXZ7caW6yXY7cZW6.XW6yXb7ccb6ycX7cYW6yXX7cYW6.XW7aXW7cXWgXWh
    XWiXWjXWkXWlXWmXWnXWoXXpYWqXWrXWsYWtYWuXWvYW7cXW6yYWo2fd7ceW.XW,XW1W1nWxXWyXWzXW.XW,XW1WXW1XXW
    1YXX7cYX6yYa7cbW6yXX7cYW6ynW1Z3cc7cfZ7caW6yXW7cZX7cZW6yXX7cYW6y1aW1a,W7cXW6yXX7cYW6yXX7cYY6yZW
    7cXX6yYW7cXW6yXY7cZW6yXW7cXW6yXW7cXW6yXW7cXW6yXX7c5Yc7cdW6yXW7cgW6yvZ7cbe7cgY7caa7c1mY6y1,W7cX
    Y6yZZ7c1ka7cba6ybj7clW6yXX7cYW6yXX7cYW6yXY7cZY6yZWxXWyXWzXY7cZW6yXX7cYX6yYa7c2XWdnWfaW7cXW6yXX
    7c3fWdnWf1nW7c1.WdnWf3lWdnWf3lWdnWf4WWf3lWdnWfeW2qXW2x3cWdnWf3kXfoWf3zWf3kX3dYWfkZ3h3mX3sYWfkZ
    3w2mX6yzW6yYW6yYW6u1uW4XXW4YYW4acZ4YcW4YYX7cYWfYX7c2WW6y3nWdYXf2qW6yMmY7cTtXf1WWf4.WfhW7c6iW7a
    4mW6.XW7cXW6y6yW7cXW6y2eWfrd7cgW6y1na7cbb6ycX7cYW6yYX6yYX7cYX6yYa7cbW6yXZ7c3fWdmWf1dW7cXW6yXc7
    c1zXf1yWdiXf2bWd4vY7caWXXa6ybX7cYZ6yaW7cYcXhW6ydW7caX7c6eX7cYW6yXc7cdW6yXX7cYW7gXW6sXW6yXW6gX1
    a7c1bW7eXX7aYW6yXW6wXW7cXW7fXW6yXW7cXW6yMnX7cYXXYZ7caYXZX7ccW7caXXYW7cXW6yXW7cXXXYZ6yaW7c2V,Y7
    c4mWf3X,7cIgW6wXW7aXW7eXW6.XX7W3hXeTEsW7cbf7c1gX7c2oX7c8sWf1cWf4uWfyn7c2hY6y1eWf3WWdjWf7mW7cYX
    7cYW6yZX7cdX7cZW7c1rWf7tWfJPnWwOYc7cdc6ydX7cUlW6y7ZW6y4sa7c1KtW6yYW7c1fW7cXWXXW6ybWf5cW7cXW6yH
    .Z7cCdX7c4xX6yYY7cZW6yXW7cXZ6y1rW7cXW6yXW7cXW6y6XWf1gWflWf1wWfXWd2cY7c1pXf2WWd2jWfgWd3hWfXWd5p
    WdXWf2nXdoWfvc7cga7c6oWfaWduW7c3aWfXWd7yWfXWd3,Wf3tWfXWd3qWf8kWfXWd8ZXfcWd4zWf2qWfpWf2oWfDcWf8
    ZWdYXf2pWfJAvaX2Wc7c16WXcJ5kWX56dX6uYYXcW7YXa6ujd6yga7cbX6y1WZ7c4uY7c3D.c7cem7cpc7ceX7cZa7c8gc
    7cB.W7c1.Z7c1Fac6y3qb7ccWd")

/-- **Class** of a code point: zero, unless it is a mark that can be moved past others. -/
def rank (n : Nat) : Nat :=
  ((markRuns.find? fun r => r.first ≤ n && n ≤ r.last).map (·.rank)).getD 0

/-! ## Taking apart -/

/-- The parts of a syllable of Hangul: a leading consonant, a vowel, and perhaps a
trailing consonant. -/
def syllableParts (n : Nat) : List Nat :=
  let i := n - 0xAC00
  let trailing := i % 28
  [0x1100 + i / 588, 0x1161 + i % 588 / 28] ++ if trailing = 0 then [] else [0x11A7 + trailing]

/-- The parts of a code point.  The first argument bounds how often it is taken apart. -/
def parts : Nat → Nat → List Nat
  | 0, n => [n]
  | bound + 1, n =>
    if 0xAC00 ≤ n && n < 0xD7A4 then syllableParts n
    else
      match decompositions.find? (·.whole == n) with
      | none => [n]
      | some d => parts bound d.first ++ if d.second = 0 then [] else parts bound d.second

/-- More than the times that any code point can be taken apart. -/
def depth : Nat := 8

/-- A mark put behind others, which are given backwards: it moves past those of a higher
class. -/
def settle (n : Nat) : List Nat → List Nat
  | [] => [n]
  | last :: before =>
    if rank n != 0 && rank n < rank last then last :: settle n before
    else n :: last :: before

/-- **Taken apart**, with the marks in order. -/
def decomposed (ns : List Nat) : List Nat :=
  ((ns.flatMap (parts depth)).foldl (fun settled n => settle n settled) []).reverse

/-! ## Joining -/

/-- The syllable of a leading consonant and a vowel, or of such a syllable and a trailing
consonant. -/
def syllable? (first second : Nat) : Option Nat :=
  if 0x1100 ≤ first && first < 0x1113 && 0x1161 ≤ second && second < 0x1176 then
    some (0xAC00 + ((first - 0x1100) * 21 + (second - 0x1161)) * 28)
  else if 0xAC00 ≤ first && first < 0xD7A4 && (first - 0xAC00) % 28 == 0
      && 0x11A7 < second && second < 0x11C3 then
    some (first + (second - 0x11A7))
  else none

/-- The code point for two. -/
def joined? (first second : Nat) : Option Nat :=
  (syllable? first second).or
    ((compositions.find? fun d => d.first == first && d.second == second).map (·.whole))

/-- Joins what can be joined to a letter.  The marks that were kept apart are given
backwards; what stands behind a mark of the same or a higher class cannot reach the
letter. -/
def joinTo (letter : Nat) (apart : List Nat) : List Nat → List Nat
  | [] => letter :: apart.reverse
  | n :: rest =>
    let isFree := match apart with
      | [] => true
      | last :: _ => rank last < rank n
    match if isFree then joined? letter n else none with
    | some whole => joinTo whole apart rest
    | none =>
      if rank n = 0 then letter :: (apart.reverse ++ joinTo n [] rest)
      else joinTo letter (n :: apart) rest

/-- **Joined**, from the first letter on. -/
def joined (ns : List Nat) : List Nat :=
  match ns.dropWhile (rank · != 0) with
  | [] => ns
  | letter :: rest => ns.takeWhile (rank · != 0) ++ joinTo letter [] rest

end Normal

/-- **The composed normal form** of a text. -/
def Text.normal (t : Text) : Text :=
  (Normal.joined (Normal.decomposed (t.map (·.val)))).map CodePoint.ofNat

end OpenBroker
